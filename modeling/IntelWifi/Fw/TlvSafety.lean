/-
**Memory safety of the TLV loop, and exactly when it holds.**

The loop reads a TLV header wherever its counter says 8 bytes remain, and several cases of the
`switch` read fixed fields without a length check. Both go wrong at the end of a file.

* `visitedTlvs`: the TLVs the loop comes to, computed from the file alone.
* `handleTlv_handled`: one case of the `switch`, described by what it rejects (`rejects`) and what it
  reads unchecked (`uncheckedPart`).
* `iwlParseTlvFirmware_total`: the parser stops on every file.
* `parseSafe_iff`: every read is inside the file and the counter never exceeds the bytes that remain
  exactly when every visited TLV has its padding and its unchecked part inside the file.
-/

import IntelWifi.Fw.TlvParser

namespace IntelWifi.Fw

open IntelWifi.Bytes IntelWifi.Loop IntelWifi.Porting

/-! ### What a TLV is rejected for, and what is read of it unchecked -/

/-- The TLV is answered with `-EINVAL`, whatever came before it. -/
def rejects (file : Firmware) (tlv : Tlv) : Bool :=
  match tlv.type with
  | .probeMaxLen | .initEvtlogPtr | .initEvtlogSize | .initErrlogPtr | .runtEvtlogPtr
  | .runtEvtlogSize | .runtErrlogPtr | .phyCalibrationSize | .phySku | .nScanChannels
  | .sdioAdmaAddr => tlv.length != 4
  | .pan | .enhanceSensTbl => tlv.length != 0
  | .flags => decide (tlv.length < 4) || tlv.length % 4 != 0
  | .apiChangesSet | .enabledCapabilities => tlv.length != 8
  | .defCalib => tlv.length != 12 || (IwlUcodeType.ofIndex (leAt file.data tlv.data 4)).isNone
  | .numOfCpu =>
    tlv.length != 4 || leAt file.data tlv.data 4 != 1 && leAt file.data tlv.data 4 != 2
  | .cscheme =>
    decide (tlv.length < 1) ||
      decide (tlv.length < 1 + leAt file.data tlv.data 1 * cipherSchemeSize)
  | .fwVersion => tlv.length != 12
  | .paging =>
    tlv.length != 4 || decide (leAt file.data tlv.data 4 > maxPagingImageSize) ||
      leAt file.data tlv.data 4 % fwPagingSize != 0
  | .fwMemSeg => tlv.length != 12 || !knownMemType (leAt file.data tlv.data 4)
  | _ => false

/-- What the debug cases remember of the TLVs before: whether there was a destination, and which
configurations were installed since. -/
structure DbgSeen where
  dest : Bool
  confs : List Nat

def DbgSeen.empty : DbgSeen := ⟨false, []⟩

/-- The TLV installs its debug configuration. -/
def DbgSeen.installs (file : Firmware) (seen : DbgSeen) (tlv : Tlv) : Bool :=
  seen.dest && decide (leAt file.data tlv.data 1 < fwDbgConfMax) &&
    !decide (leAt file.data tlv.data 1 ∈ seen.confs)

def DbgSeen.add (file : Firmware) (seen : DbgSeen) (tlv : Tlv) : DbgSeen :=
  match tlv.type with
  | .fwDbgDest => { seen with dest := true }
  | .fwDbgConf =>
    if seen.installs file tlv then { seen with confs := leAt file.data tlv.data 1 :: seen.confs }
    else seen
  | _ => seen

/-- How many payload bytes are read without a length check. -/
def uncheckedPart (file : Firmware) (seen : DbgSeen) (tlv : Tlv) : Nat :=
  match tlv.type with
  | .secRt | .secInit | .secWowlan | .secureSecRt | .secureSecInit | .secureSecWowlan
  | .secRtUsniffer | .fwDbgTrigger => 4
  | .fwDbgDest => if seen.dest then 0 else 2
  | .fwDbgConf => if seen.installs file tlv then 2 else 1
  | _ => 0

/-- The parser's state remembers what `seen` says. -/
structure DbgSeen.Matches (seen : DbgSeen) (st : TlvState) : Prop where
  dest : st.pieces.dbgDestTlv.isSome = seen.dest
  confs : ∀ id, (st.pieces.dbgConfTlv id).isSome = decide (id ∈ seen.confs)

/-- Stores outside the two debug tables do not matter. -/
theorem DbgSeen.Matches.of_same {seen : DbgSeen} {st st' : TlvState} (matched : seen.Matches st)
    (dest : st'.pieces.dbgDestTlv = st.pieces.dbgDestTlv)
    (confs : st'.pieces.dbgConfTlv = st.pieces.dbgConfTlv) : seen.Matches st' :=
  ⟨by rw [dest, matched.dest], fun id => by rw [confs, matched.confs]⟩

/-- **One case of the `switch`**, run on a TLV whose payload is inside the file. -/
structure HandledAs (file : Firmware) (seen : DbgSeen) (tlv : Tlv)
    (result : Except ParseStop TlvState) : Prop where
  outside : file.size < tlv.data + uncheckedPart file seen tlv → result = .error .outOfBounds
  rejected : rejects file tlv = true → tlv.data + uncheckedPart file seen tlv ≤ file.size →
    result = .error .einval
  accepted : rejects file tlv = false → tlv.data + uncheckedPart file seen tlv ≤ file.size →
    ∃ st', result = .ok st' ∧ (seen.add file tlv).Matches st'

/-- A case that checks the length before it reads. -/
theorem HandledAs.checked {file : Firmware} {seen : DbgSeen} {tlv : Tlv}
    {result : Except ParseStop TlvState} (payload : tlv.data + tlv.length ≤ file.size)
    (none : uncheckedPart file seen tlv = 0) (same : seen.add file tlv = seen)
    (bad : rejects file tlv = true → result = .error .einval)
    (good : rejects file tlv = false → ∃ st', result = .ok st' ∧ seen.Matches st') :
    HandledAs file seen tlv result where
  outside far := by omega
  rejected rejected _ := bad rejected
  accepted accepted _ := by
    rw [same]
    exact good accepted

/-- A case that never rejects, and reads `n` bytes first. -/
theorem HandledAs.unchecked {file : Firmware} {seen : DbgSeen} {tlv : Tlv}
    {result : Except ParseStop TlvState} {n : Nat} (part : uncheckedPart file seen tlv = n)
    (never : rejects file tlv = false)
    (far : file.size < tlv.data + n → result = .error .outOfBounds)
    (near : tlv.data + n ≤ file.size →
      ∃ st', result = .ok st' ∧ (seen.add file tlv).Matches st') :
    HandledAs file seen tlv result where
  outside outside := far (part ▸ outside)
  rejected rejected _ := by
    rw [never] at rejected
    cases rejected
  accepted _ inside := near (part ▸ inside)

section Cases

variable {file : Firmware} {seen : DbgSeen} {data length : Nat} {st : TlvState}

theorem exactLen_ne {tlv : Tlv} {n : Nat} (differs : tlv.length ≠ n) :
    exactLen tlv n = .error .einval :=
  if_pos differs

theorem exactLen_eq {tlv : Tlv} {n : Nat} (same : tlv.length = n) : exactLen tlv n = .ok () :=
  if_neg (not_not.mpr same)

/-- A case without a check, a read or a debug store. -/
theorem HandledAs.plain {tlv : Tlv} {st' : TlvState} (payload : tlv.data + tlv.length ≤ file.size)
    (matched : seen.Matches st') (none : uncheckedPart file seen tlv = 0)
    (same : seen.add file tlv = seen) (never : rejects file tlv = false) :
    HandledAs file seen tlv (.ok st') :=
  .checked payload none same (fun rejected => by rw [never] at rejected; cases rejected)
    fun _ => ⟨st', rfl, matched⟩

theorem HandledAs.u32 {tlv : Tlv} {store : Nat → TlvState}
    (payload : tlv.data + tlv.length ≤ file.size) (matched : ∀ value, seen.Matches (store value))
    (none : uncheckedPart file seen tlv = 0) (same : seen.add file tlv = seen)
    (check : rejects file tlv = (tlv.length != 4)) :
    HandledAs file seen tlv (u32Tlv file tlv store) := by
  refine .checked payload none same (fun bad => ?_) fun good => ?_
  · rw [check, bne_iff_ne] at bad
    rw [u32Tlv, exactLen_ne bad]
    rfl
  · rw [check, bne_eq_false_iff_eq] at good
    rw [u32Tlv, exactLen_eq good, Firmware.read_inside (by omega)]
    exact ⟨_, rfl, matched _⟩

theorem HandledAs.noPayload {tlv : Tlv} {st' : TlvState}
    (payload : tlv.data + tlv.length ≤ file.size) (matched : seen.Matches st')
    (none : uncheckedPart file seen tlv = 0) (same : seen.add file tlv = seen)
    (check : rejects file tlv = (tlv.length != 0)) :
    HandledAs file seen tlv (emptyTlv tlv st') := by
  refine .checked payload none same (fun bad => ?_) fun good => ?_
  · rw [check, bne_iff_ne] at bad
    rw [emptyTlv, exactLen_ne bad]
    rfl
  · rw [check, bne_eq_false_iff_eq] at good
    rw [emptyTlv, exactLen_eq good]
    exact ⟨_, rfl, matched⟩

theorem HandledAs.flagBits {tlv : Tlv} {store : FlagsTlv → TlvState}
    (payload : tlv.data + tlv.length ≤ file.size) (matched : ∀ flags, seen.Matches (store flags))
    (none : uncheckedPart file seen tlv = 0) (same : seen.add file tlv = seen)
    (check : rejects file tlv = (tlv.length != 8)) :
    HandledAs file seen tlv (do let flags ← flagsTlv file tlv; .ok (store flags)) := by
  refine .checked payload none same (fun bad => ?_) fun good => ?_
  · rw [check, bne_iff_ne] at bad
    rw [flagsTlv, exactLen_ne bad]
    rfl
  · rw [check, bne_eq_false_iff_eq] at good
    rw [flagsTlv, exactLen_eq good, Firmware.read_inside (by omega),
      Firmware.read_inside (by omega)]
    exact ⟨_, rfl, matched _⟩

/-- A case that stores a section from its offset field: the SEC TLVs. -/
theorem HandledAs.store {tlv : Tlv} {type : IwlUcodeType} (matched : seen.Matches st)
    (part : uncheckedPart file seen tlv = 4) (same : seen.add file tlv = seen)
    (never : rejects file tlv = false) :
    HandledAs file seen tlv (iwlStoreUcodeSec file tlv type st) := by
  refine .unchecked part never (fun far => ?_) fun near => ?_
  · rw [iwlStoreUcodeSec, Firmware.read_outside far]
    rfl
  · rw [iwlStoreUcodeSec, Firmware.read_inside near, same]
    exact ⟨_, rfl, matched.of_same rfl rfl⟩

theorem HandledAs.sec {tlv : Tlv} {type : IwlUcodeType} (matched : seen.Matches st)
    (part : uncheckedPart file seen tlv = 4) (same : seen.add file tlv = seen)
    (never : rejects file tlv = false) :
    HandledAs file seen tlv (secTlv file tlv type st) := by
  refine .unchecked part never (fun far => ?_) fun near => ?_
  · rw [secTlv, iwlStoreUcodeSec, Firmware.read_outside far]
    rfl
  · rw [secTlv, iwlStoreUcodeSec, Firmware.read_inside near, same]
    exact ⟨_, rfl, matched.of_same rfl rfl⟩

theorem HandledAs.flags (payload : data + length ≤ file.size) (matched : seen.Matches st) :
    HandledAs file seen ⟨.flags, data, length⟩ (handleTlv file ⟨.flags, data, length⟩ st) := by
  refine .checked payload rfl rfl (fun bad => ?_) fun good => ?_
  · simp only [rejects, Bool.or_eq_true, decide_eq_true_eq, bne_iff_ne] at bad
    simp only [handleTlv]
    by_cases short : length < 4
    · rw [if_pos short]
    · rw [if_neg short, if_pos (bad.resolve_left short)]
  · simp only [rejects, Bool.or_eq_false_iff, decide_eq_false_iff_not, bne_eq_false_iff_eq] at good
    simp only [handleTlv]
    rw [if_neg good.1, if_neg (not_not.mpr good.2), Firmware.read_inside (by omega)]
    exact ⟨_, rfl, matched.of_same rfl rfl⟩

theorem HandledAs.defCalib (payload : data + length ≤ file.size) (matched : seen.Matches st) :
    HandledAs file seen ⟨.defCalib, data, length⟩
      (iwlSetDefaultCalib file ⟨.defCalib, data, length⟩ st) := by
  refine .checked payload rfl rfl (fun bad => ?_) fun good => ?_
  · simp only [rejects, Bool.or_eq_true, bne_iff_ne, Option.isNone_iff_eq_none] at bad
    by_cases exact : length = 12
    · rw [iwlSetDefaultCalib, exactLen_eq exact, Firmware.read_inside (by show data + 4 ≤ _; omega)]
      simp only [bind, Except.bind, bad.resolve_left (not_not.mpr exact)]
    · rw [iwlSetDefaultCalib, exactLen_ne exact]
      rfl
  · simp only [rejects, Bool.or_eq_false_iff, bne_eq_false_iff_eq] at good
    obtain ⟨exact, known⟩ := good
    rw [iwlSetDefaultCalib, exactLen_eq exact, Firmware.read_inside (by show data + 4 ≤ _; omega)]
    cases type : IwlUcodeType.ofIndex (leAt file.data data 4) with
    | none =>
      rw [type] at known
      cases known
    | some type' =>
      simp only [bind, Except.bind, type]
      rw [Firmware.read_inside (by omega), Firmware.read_inside (by omega)]
      exact ⟨_, rfl, matched.of_same rfl rfl⟩

theorem HandledAs.numOfCpu (payload : data + length ≤ file.size) (matched : seen.Matches st) :
    HandledAs file seen ⟨.numOfCpu, data, length⟩
      (numOfCpuTlv file ⟨.numOfCpu, data, length⟩ st) := by
  refine .checked payload rfl rfl (fun bad => ?_) fun good => ?_
  · simp only [rejects, Bool.or_eq_true, Bool.and_eq_true, bne_iff_ne] at bad
    by_cases exact : length = 4
    · have value := bad.resolve_left (not_not.mpr exact)
      rw [numOfCpuTlv, exactLen_eq exact, Firmware.read_inside (by show data + 4 ≤ _; omega)]
      simp only [bind, Except.bind]
      rw [if_neg value.2, if_pos (by omega)]
    · rw [numOfCpuTlv, exactLen_ne exact]
      rfl
  · simp only [rejects, Bool.or_eq_false_iff, Bool.and_eq_false_iff, bne_eq_false_iff_eq] at good
    obtain ⟨exact, value⟩ := good
    rw [numOfCpuTlv, exactLen_eq exact, Firmware.read_inside (by show data + 4 ≤ _; omega)]
    simp only [bind, Except.bind]
    by_cases two : leAt file.data data 4 = 2
    · rw [if_pos two]
      exact ⟨_, rfl, matched.of_same rfl rfl⟩
    · rw [if_neg two, if_neg (by omega)]
      exact ⟨_, rfl, matched⟩

/-- The entries a scheme loop looks at are inside, so it goes through. -/
theorem storeSchemes_ok {size : Nat} (inside : data + (1 + size * cipherSchemeSize) ≤ file.size)
    (rounds j : Nat) (cs : List CipherScheme) (room : j + rounds ≤ size) :
    ∃ cs', storeSchemes file data rounds j cs = .ok cs' := by
  induction rounds generalizing j cs with
  | zero => exact ⟨cs, rfl⟩
  | succ rounds ih =>
    unfold cipherSchemeSize at inside
    rw [storeSchemes]
    unfold cipherSchemeSize
    rw [Firmware.read_inside (by omega)]
    simp only [bind, Except.bind]
    by_cases zero : leAt file.data (data + 1 + 13 * j) 4 = 0
    · rw [if_pos zero]
      exact ih j cs (by omega)
    · rw [if_neg zero, Firmware.read_inside (by omega)]
      exact ih (j + 1) _ (by omega)

theorem HandledAs.cscheme (payload : data + length ≤ file.size) (matched : seen.Matches st) :
    HandledAs file seen ⟨.cscheme, data, length⟩
      (iwlStoreCscheme file ⟨.cscheme, data, length⟩ st) := by
  refine .checked payload rfl rfl (fun bad => ?_) fun good => ?_
  · simp only [rejects, Bool.or_eq_true, decide_eq_true_eq] at bad
    unfold iwlStoreCscheme
    dsimp only
    by_cases empty : length < 1
    · rw [if_pos empty]
    · rw [if_neg empty, Firmware.read_inside (by omega)]
      simp only [bind, Except.bind]
      rw [if_pos (bad.resolve_left empty)]
  · simp only [rejects, Bool.or_eq_false_iff, decide_eq_false_iff_not] at good
    have schemes : data + (1 + leAt file.data data 1 * cipherSchemeSize) ≤ file.size := by omega
    obtain ⟨cs, stored⟩ := storeSchemes_ok schemes (min iwlUcodeMaxCs (leAt file.data data 1)) 0
      st.fw.cs (by omega)
    unfold iwlStoreCscheme
    dsimp only
    rw [if_neg good.1, Firmware.read_inside (by omega)]
    simp only [bind, Except.bind]
    rw [if_neg good.2, stored]
    exact ⟨_, rfl, matched.of_same rfl rfl⟩

theorem HandledAs.fwVersion (payload : data + length ≤ file.size) (matched : seen.Matches st) :
    HandledAs file seen ⟨.fwVersion, data, length⟩
      (fwVersionTlv file ⟨.fwVersion, data, length⟩ st) := by
  refine .checked payload rfl rfl (fun bad => ?_) fun good => ?_
  · simp only [rejects, bne_iff_ne] at bad
    rw [fwVersionTlv, exactLen_ne bad]
    rfl
  · simp only [rejects, bne_eq_false_iff_eq] at good
    rw [fwVersionTlv, exactLen_eq good]
    dsimp only
    rw [Firmware.read_inside (by omega), Firmware.read_inside (by omega),
      Firmware.read_inside (by omega)]
    exact ⟨_, rfl, matched.of_same rfl rfl⟩

theorem HandledAs.paging (payload : data + length ≤ file.size) (matched : seen.Matches st) :
    HandledAs file seen ⟨.paging, data, length⟩ (pagingTlv file ⟨.paging, data, length⟩ st) := by
  refine .checked payload rfl rfl (fun bad => ?_) fun good => ?_
  · simp only [rejects, Bool.or_eq_true, decide_eq_true_eq, bne_iff_ne] at bad
    by_cases exact : length = 4
    · rw [pagingTlv, exactLen_eq exact, Firmware.read_inside (by show data + 4 ≤ _; omega)]
      simp only [bind, Except.bind]
      by_cases large : leAt file.data data 4 > maxPagingImageSize
      · rw [if_pos large]
      · rw [if_neg large, if_pos (by omega)]
    · rw [pagingTlv, exactLen_ne exact]
      rfl
  · simp only [rejects, Bool.or_eq_false_iff, decide_eq_false_iff_not, bne_eq_false_iff_eq] at good
    obtain ⟨⟨exact, small⟩, pages⟩ := good
    rw [pagingTlv, exactLen_eq exact, Firmware.read_inside (by show data + 4 ≤ _; omega)]
    simp only [bind, Except.bind]
    rw [if_neg small, if_neg (not_not.mpr pages)]
    exact ⟨_, rfl, matched.of_same rfl rfl⟩

theorem HandledAs.fwGscanCapa (payload : data + length ≤ file.size) (matched : seen.Matches st) :
    HandledAs file seen ⟨.fwGscanCapa, data, length⟩
      (fwGscanCapaTlv file ⟨.fwGscanCapa, data, length⟩ st) := by
  refine .checked payload rfl rfl (fun bad => by cases bad) fun _ => ?_
  unfold fwGscanCapaTlv
  dsimp only
  by_cases short : length < gscanCapabilitiesSize
  · rw [if_pos short]
    exact ⟨_, rfl, matched⟩
  · rw [if_neg short, Firmware.read_inside (by omega)]
    exact ⟨_, rfl, matched.of_same rfl rfl⟩

theorem HandledAs.fwMemSeg (payload : data + length ≤ file.size) (matched : seen.Matches st) :
    HandledAs file seen ⟨.fwMemSeg, data, length⟩
      (fwMemSegTlv file ⟨.fwMemSeg, data, length⟩ st) := by
  refine .checked payload rfl rfl (fun bad => ?_) fun good => ?_
  · simp only [rejects, Bool.or_eq_true, bne_iff_ne, Bool.not_eq_true'] at bad
    by_cases exact : length = 12
    · rw [fwMemSegTlv, exactLen_eq exact, Firmware.read_inside (by show data + 4 ≤ _; omega)]
      simp only [bind, Except.bind]
      rw [if_neg (by simp [bad.resolve_left (not_not.mpr exact)])]
    · rw [fwMemSegTlv, exactLen_ne exact]
      rfl
  · simp only [rejects, Bool.or_eq_false_iff, bne_eq_false_iff_eq, Bool.not_eq_false'] at good
    obtain ⟨exact, known⟩ := good
    rw [fwMemSegTlv, exactLen_eq exact, Firmware.read_inside (by show data + 4 ≤ _; omega)]
    simp only [bind, Except.bind]
    rw [if_pos known, Firmware.read_inside (by omega), Firmware.read_inside (by omega)]
    exact ⟨_, rfl, matched.of_same rfl rfl⟩

theorem HandledAs.fwDbgTrigger (matched : seen.Matches st) :
    HandledAs file seen ⟨.fwDbgTrigger, data, length⟩
      (fwDbgTriggerTlv file ⟨.fwDbgTrigger, data, length⟩ st) := by
  refine .unchecked (n := 4) rfl rfl (fun far => ?_) fun near => ?_
  · rw [fwDbgTriggerTlv, Firmware.read_outside far]
    rfl
  · rw [fwDbgTriggerTlv, Firmware.read_inside near]
    simp only [bind, Except.bind]
    split
    · exact ⟨_, rfl, matched⟩
    · split
      · exact ⟨_, rfl, matched⟩
      · exact ⟨_, rfl, matched.of_same rfl rfl⟩

theorem HandledAs.fwDbgDest (payload : data + length ≤ file.size) (matched : seen.Matches st) :
    HandledAs file seen ⟨.fwDbgDest, data, length⟩
      (fwDbgDestTlv file ⟨.fwDbgDest, data, length⟩ st) := by
  unfold fwDbgDestTlv
  rw [matched.dest]
  cases there : seen.dest with
  | true =>
    refine .unchecked (n := 0) (by simp [uncheckedPart, there]) rfl (fun far => ?_) fun _ => ?_
    · exact absurd far (by show ¬ file.size < data + 0; omega)
    · exact ⟨st, rfl, by rw [matched.dest, there]; rfl, matched.confs⟩
  | false =>
    refine .unchecked (n := 2) (by simp [uncheckedPart, there]) rfl (fun far => ?_) fun near => ?_
    · rw [if_neg (by simp), Firmware.read_outside (by show file.size < data + 1 + 1; exact far)]
      rfl
    · rw [if_neg (by simp), Firmware.read_inside (by show data + 1 + 1 ≤ file.size; exact near)]
      exact ⟨_, rfl, rfl, matched.confs⟩

theorem HandledAs.fwDbgConf (matched : seen.Matches st) :
    HandledAs file seen ⟨.fwDbgConf, data, length⟩
      (fwDbgConfTlv file ⟨.fwDbgConf, data, length⟩ st) := by
  have noDest : st.pieces.dbgDestTlv.isNone = !seen.dest := by
    rw [← matched.dest, Option.not_isSome]
  cases installs : seen.installs file ⟨.fwDbgConf, data, length⟩ with
  | false =>
    refine .unchecked (n := 1) (by simp [uncheckedPart, installs]) rfl (fun far => ?_) fun near => ?_
    · rw [fwDbgConfTlv, Firmware.read_outside far]
      rfl
    · have skipped : fwDbgConfTlv file ⟨.fwDbgConf, data, length⟩ st = .ok st := by
        rw [fwDbgConfTlv, Firmware.read_inside near]
        simp only [bind, Except.bind, noDest, matched.confs]
        simp only [DbgSeen.installs, Bool.and_eq_false_iff, decide_eq_false_iff_not,
          Bool.not_eq_false', decide_eq_true_eq] at installs
        split
        · rfl
        · split
          · rfl
          · rw [if_pos]
            simp_all
      exact ⟨st, skipped, by simpa [DbgSeen.add, installs] using matched⟩
  | true =>
    have fields := installs
    simp only [DbgSeen.installs, Bool.and_eq_true, decide_eq_true_eq, Bool.not_eq_true',
      decide_eq_false_iff_not] at fields
    obtain ⟨⟨dest, known⟩, fresh⟩ := fields
    refine .unchecked (n := 2) (by simp [uncheckedPart, installs]) rfl (fun far => ?_) fun near => ?_
    · rw [fwDbgConfTlv]
      dsimp only at far ⊢
      by_cases first : data + 1 ≤ file.size
      · rw [Firmware.read_inside first]
        simp only [bind, Except.bind, noDest, matched.confs, dest]
        rw [if_neg (by simp), if_neg (by omega), if_neg (by simpa using fresh),
          Firmware.read_outside (by omega)]
      · rw [Firmware.read_outside (by omega)]
        rfl
    · rw [fwDbgConfTlv]
      dsimp only at near ⊢
      rw [Firmware.read_inside (by omega)]
      simp only [bind, Except.bind, noDest, matched.confs, dest]
      rw [if_neg (by simp), if_neg (by omega), if_neg (by simpa using fresh),
        Firmware.read_inside (by omega)]
      refine ⟨_, rfl, ?_, fun id => ?_⟩
      · simpa [DbgSeen.add, installs] using matched.dest
      · by_cases same : id = leAt file.data data 1
        · simp [DbgSeen.add, installs, same]
        · simp [DbgSeen.add, installs, same, matched.confs]

end Cases

/-- **Every case of the `switch`** is described by `rejects`, `uncheckedPart` and `DbgSeen.add`. -/
theorem handleTlv_handled {file : Firmware} {seen : DbgSeen} {tlv : Tlv} {st : TlvState}
    (payload : tlv.data + tlv.length ≤ file.size) (matched : seen.Matches st) :
    HandledAs file seen tlv (handleTlv file tlv st) := by
  obtain ⟨type, data, length⟩ := tlv
  cases type with
  | inst | data | init | initData | wowlanInst | wowlanData =>
    exact .plain payload (matched.of_same rfl rfl) rfl rfl rfl
  | boot | unknown => exact .plain payload matched rfl rfl rfl
  | probeMaxLen | initEvtlogPtr | initEvtlogSize | initErrlogPtr | runtEvtlogPtr | runtEvtlogSize
  | runtErrlogPtr | phyCalibrationSize | phySku | nScanChannels | sdioAdmaAddr =>
    exact .u32 payload (fun _ => matched.of_same rfl rfl) rfl rfl rfl
  | pan | enhanceSensTbl => exact .noPayload payload (matched.of_same rfl rfl) rfl rfl rfl
  | flags => exact .flags payload matched
  | apiChangesSet | enabledCapabilities =>
    exact .flagBits payload (fun _ => matched.of_same rfl rfl) rfl rfl rfl
  | secRt | secInit | secWowlan | secureSecRt | secureSecInit | secureSecWowlan =>
    exact .sec matched rfl rfl rfl
  | secRtUsniffer => exact .store (matched.of_same rfl rfl) rfl rfl rfl
  | defCalib => exact .defCalib payload matched
  | numOfCpu => exact .numOfCpu payload matched
  | cscheme => exact .cscheme payload matched
  | fwVersion => exact .fwVersion payload matched
  | fwDbgDest => exact .fwDbgDest payload matched
  | fwDbgConf => exact .fwDbgConf matched
  | fwDbgTrigger => exact .fwDbgTrigger matched
  | paging => exact .paging payload matched
  | fwGscanCapa => exact .fwGscanCapa payload matched
  | fwMemSeg => exact .fwMemSeg payload matched

/-! ### One turn of the loop -/

/-- The cursor's counter is the number of bytes from its pointer to the end of the file. -/
def Cursor.Exact (file : Firmware) (cur : Cursor) : Prop := cur.data + cur.len = file.size

/-- The head of the body under an exact counter: only the announced length is checked. -/
theorem nextTlv_exact {file : Firmware} {cur : Cursor} (exact : cur.Exact file)
    (header : tlvHeaderSize ≤ cur.len) :
    nextTlv file cur =
      if file.size < (file.tlvAt cur.data).data + (file.tlvAt cur.data).length then .error .einval
      else .ok (file.tlvAt cur.data,
        ⟨(file.tlvAt cur.data).next,
          sizeSub (cur.len - tlvHeaderSize) (lnxAlign (file.tlvAt cur.data).length 4)⟩) := by
  unfold Cursor.Exact at exact
  have bound : file.size < 2 ^ 63 := file.size_lt
  unfold nextTlv
  rw [sizeSub_of_le header (by omega)]
  unfold tlvHeaderSize at header ⊢
  rw [Firmware.read_inside (by omega), Firmware.read_inside (by omega)]
  simp only [bind, Except.bind]
  have announced : (file.tlvAt cur.data).length = leAt file.data (cur.data + 4) 4 := rfl
  have payload : (file.tlvAt cur.data).data = cur.data + 8 := rfl
  by_cases fits : cur.len - 8 < leAt file.data (cur.data + 4) 4
  · rw [if_pos fits, if_pos (by omega)]
  · rw [if_neg fits, if_neg (by omega)]
    rfl

/-- With the padding inside the file, the counter stays exact. -/
theorem Cursor.Exact.next {file : Firmware} {cur : Cursor} (exact : cur.Exact file)
    (header : tlvHeaderSize ≤ cur.len) (padding : (file.tlvAt cur.data).next ≤ file.size) :
    Cursor.Exact file ⟨(file.tlvAt cur.data).next,
      sizeSub (cur.len - tlvHeaderSize) (lnxAlign (file.tlvAt cur.data).length 4)⟩ := by
  unfold Cursor.Exact at *
  have bound : file.size < 2 ^ 63 := file.size_lt
  simp only [Tlv.next, Firmware.tlvAt, tlvHeaderSize] at *
  rw [sizeSub_of_le (by omega) (by omega)]
  omega

/-- With the padding outside the file, the counter wraps to far more than what remains. -/
theorem counter_wraps {file : Firmware} {cur : Cursor} (exact : cur.Exact file)
    (header : tlvHeaderSize ≤ cur.len) (outside : file.size < (file.tlvAt cur.data).next) :
    file.size <
      sizeSub (cur.len - tlvHeaderSize) (lnxAlign (file.tlvAt cur.data).length 4) := by
  unfold Cursor.Exact at exact
  have bound : file.size < 2 ^ 63 := file.size_lt
  have word := file.tlvAt_length_lt cur.data
  have padded := lnxAlign_four_lt (file.tlvAt cur.data).length
  simp only [Tlv.next, Firmware.tlvAt, tlvHeaderSize] at *
  rw [sizeSub_of_lt (by omega) (by omega)]
  omega

/-- What a turn that goes on did. -/
theorem tlvTurn_again {file : Firmware} {cur next : Cursor} {st st' : TlvState}
    (turn : tlvTurn file (cur, st) = .again (next, st')) :
    tlvHeaderSize ≤ cur.len ∧
      ∃ tlv, nextTlv file cur = .ok (tlv, next) ∧ handleTlv file tlv st = .ok st' := by
  unfold tlvTurn at turn
  dsimp only at turn
  split at turn
  · cases turn
  · next enough =>
    refine ⟨Nat.not_lt.mp enough, ?_⟩
    split at turn
    · cases turn
    · next tlv next' read =>
      split at turn
      · cases turn
      · next st'' handled =>
        cases turn
        exact ⟨tlv, read, handled⟩

theorem tlvTurn_of_handled {file : Firmware} {cur next : Cursor} {st st' : TlvState} {tlv : Tlv}
    (header : tlvHeaderSize ≤ cur.len) (read : nextTlv file cur = .ok (tlv, next))
    (handled : handleTlv file tlv st = .ok st') :
    tlvTurn file (cur, st) = .again (next, st') := by
  unfold tlvTurn
  dsimp only
  rw [if_neg (Nat.not_lt.mpr header), read]
  dsimp only
  rw [handled]

/-! ### The parser stops on every file -/

/-- A header that is read lies inside the file, and the pointer moves past it. -/
theorem nextTlv_advances {file : Firmware} {cur next : Cursor} {tlv : Tlv}
    (read : nextTlv file cur = .ok (tlv, next)) :
    cur.data + 8 ≤ file.size ∧ cur.data + 8 ≤ next.data := by
  unfold nextTlv at read
  by_cases inside : cur.data + 4 + 4 ≤ file.size
  · rw [Firmware.read_inside inside, Firmware.read_inside (by omega)] at read
    simp only [bind, Except.bind] at read
    split at read
    · cases read
    · rw [Except.ok.injEq, Prod.mk.injEq] at read
      rw [← read.2]
      exact ⟨inside, Nat.le_add_right (cur.data + tlvHeaderSize) _⟩
  · rw [Firmware.read_outside (by omega)] at read
    cases read

/-- Every TLV takes at least its header, so one turn per byte of the file is enough. -/
theorem tlvLoop_total (file : Firmware) (entry : Cursor × TlvState) :
    ∃ left, run (tlvTurn file) (tlvFuel file) entry = some left := by
  refine run_total (fun _ => True) (fun head => file.size - head.1.data) ?_ trivial
    (by unfold tlvFuel; omega)
  rintro ⟨cur, st⟩ ⟨next, st'⟩ _ turn
  obtain ⟨_, tlv, read, _⟩ := tlvTurn_again turn
  obtain ⟨inside, moved⟩ := nextTlv_advances read
  refine ⟨trivial, ?_⟩
  dsimp only
  omega

/-- **The parser stops on every file.** -/
theorem iwlParseTlvFirmware_total [WideShift] (file : Firmware) (st : TlvState) :
    ∃ result, iwlParseTlvFirmware file st = some result := by
  unfold iwlParseTlvFirmware
  cases tlvHeader file st with
  | error stop => exact ⟨_, rfl⟩
  | ok entry =>
    obtain ⟨left, ran⟩ := tlvLoop_total file entry
    exact ⟨_, by simp only [ran, Option.map_some]; rfl⟩

/-! ### Safety of a file, and the TLVs it visits -/

/-- The parser's state at entry: zeroed pieces, and the driver's records as they are. -/
def TlvState.start (fw : IwlFw) (capa : IwlUcodeCapabilities) : TlvState where
  pieces := .zero
  fw := fw
  capa := capa
  usnifferImages := false
  usnifferReq := false
  gscanCapa := false

/-- The loop head is reached in the parse of the file. -/
def Reaches (file : Firmware) (st : TlvState) (head : Cursor × TlvState) : Prop :=
  ∃ entry, tlvHeader file st = .ok entry ∧ Heads (tlvTurn file) entry head

/-- **Safety of one parse**: it ends, each TLV header and each payload byte it reads is inside the
file, and the counter is never more than what remains, at the loop head and after the padded length
is taken off. -/
structure ParseSafe [WideShift] (file : Firmware) (st : TlvState) : Prop where
  terminates : ∃ result, iwlParseTlvFirmware file st = some result
  fileHeader : tlvHeader file st ≠ .error .outOfBounds
  tlvHeaders : ∀ cur st', Reaches file st (cur, st') → tlvHeaderSize ≤ cur.len →
    nextTlv file cur ≠ .error .outOfBounds
  payloads : ∀ cur st' tlv next, Reaches file st (cur, st') → tlvHeaderSize ≤ cur.len →
    nextTlv file cur = .ok (tlv, next) → handleTlv file tlv st' ≠ .error .outOfBounds
  counter : ∀ cur st', Reaches file st (cur, st') → cur.len ≤ file.size - cur.data
  counterAfter : ∀ cur st' tlv next, Reaches file st (cur, st') → tlvHeaderSize ≤ cur.len →
    nextTlv file cur = .ok (tlv, next) → next.len ≤ file.size - next.data

/-- The TLVs from an offset, up to the first that is rejected. -/
def visitedFrom (file : Firmware) : Nat → Nat → List Tlv
  | 0, _ => []
  | fuel + 1, offset =>
    if file.size < offset + tlvHeaderSize then []
    else if file.size < (file.tlvAt offset).data + (file.tlvAt offset).length then []
    else file.tlvAt offset ::
      if rejects file (file.tlvAt offset) then []
      else visitedFrom file fuel (file.tlvAt offset).next

/-- The TLVs of a file that the parser handles. -/
def visitedTlvs (file : Firmware) : List Tlv :=
  if file.size < tlvUcodeHeaderSize ∨ leAt file.data 4 4 ≠ tlvUcodeMagic then []
  else visitedFrom file (tlvFuel file) tlvUcodeHeaderSize

/-- The padding of a TLV and its unchecked part are in the file. -/
structure TlvFits (file : Firmware) (seen : DbgSeen) (tlv : Tlv) : Prop where
  padding : tlv.next ≤ file.size
  unchecked : tlv.data + uncheckedPart file seen tlv ≤ file.size

/-- What the debug cases have seen after some TLVs. -/
def seenAfter (file : Firmware) (seen : DbgSeen) (earlier : List Tlv) : DbgSeen :=
  earlier.foldl (DbgSeen.add file) seen

/-- Every TLV of a list fits, after what comes before it. -/
def AllFit (file : Firmware) (seen : DbgSeen) (tlvs : List Tlv) : Prop :=
  ∀ earlier tlv later, tlvs = earlier ++ tlv :: later →
    TlvFits file (seenAfter file seen earlier) tlv

theorem AllFit.nil (file : Firmware) (seen : DbgSeen) : AllFit file seen [] := by
  intro earlier tlv later split
  exact absurd split (by simp)

theorem allFit_cons {file : Firmware} {seen : DbgSeen} {tlv : Tlv} {rest : List Tlv} :
    AllFit file seen (tlv :: rest) ↔ TlvFits file seen tlv ∧ AllFit file (seen.add file tlv) rest := by
  constructor
  · intro fit
    refine ⟨fit [] tlv rest rfl, fun earlier tlv' later split => ?_⟩
    exact fit (tlv :: earlier) tlv' later (by rw [split]; rfl)
  · rintro ⟨first, fit⟩ earlier tlv' later split
    cases earlier with
    | nil =>
      cases split
      exact first
    | cons head earlier =>
      cases split
      exact fit earlier tlv' later rfl

/-- The file's TLV list, unrolled once under a header that is inside. -/
theorem visitedFrom_succ {file : Firmware} {offset fuel : Nat}
    (header : offset + tlvHeaderSize ≤ file.size)
    (payload : (file.tlvAt offset).data + (file.tlvAt offset).length ≤ file.size) :
    visitedFrom file (fuel + 1) offset = file.tlvAt offset ::
      if rejects file (file.tlvAt offset) then []
      else visitedFrom file fuel (file.tlvAt offset).next := by
  rw [visitedFrom, if_neg (Nat.not_lt.mpr header), if_neg (Nat.not_lt.mpr payload)]

/-- A loop head from which all the visited TLVs fit. -/
structure FittingHead (file : Firmware) (cur : Cursor) (st : TlvState) : Prop where
  exact : cur.Exact file
  fits : ∃ seen fuel, seen.Matches st ∧ file.size - cur.data < fuel ∧
    AllFit file seen (visitedFrom file fuel cur.data)

/-- At a fitting head, a TLV whose payload is inside fits, and what follows it does. -/
theorem FittingHead.handles {file : Firmware} {cur : Cursor} {st : TlvState}
    (fitting : FittingHead file cur st) (header : tlvHeaderSize ≤ cur.len)
    (payload : (file.tlvAt cur.data).data + (file.tlvAt cur.data).length ≤ file.size) :
    (file.tlvAt cur.data).next ≤ file.size ∧
      handleTlv file (file.tlvAt cur.data) st ≠ .error .outOfBounds ∧
      ∀ st', handleTlv file (file.tlvAt cur.data) st = .ok st' →
        FittingHead file ⟨(file.tlvAt cur.data).next,
          sizeSub (cur.len - tlvHeaderSize) (lnxAlign (file.tlvAt cur.data).length 4)⟩ st' := by
  obtain ⟨exact, seen, fuel, matched, enough, fit⟩ := fitting
  have sum : cur.data + cur.len = file.size := exact
  obtain ⟨fuel, rfl⟩ : ∃ fuel', fuel = fuel' + 1 := ⟨fuel - 1, by omega⟩
  rw [visitedFrom_succ (by omega) payload, allFit_cons] at fit
  obtain ⟨⟨padding, unchecked⟩, later⟩ := fit
  have handled := handleTlv_handled payload matched
  cases rejected : rejects file (file.tlvAt cur.data) with
  | true =>
    rw [handled.rejected rejected unchecked]
    exact ⟨padding, by simp, fun st' wrong => by cases wrong⟩
  | false =>
    obtain ⟨st', accepted, matched'⟩ := handled.accepted rejected unchecked
    rw [accepted]
    refine ⟨padding, by simp, fun st'' same => ?_⟩
    cases same
    rw [rejected] at later
    refine ⟨exact.next header padding, _, fuel, matched', ?_, later⟩
    have moved : cur.data + tlvHeaderSize ≤ (file.tlvAt cur.data).next := Nat.le_add_right _ _
    unfold tlvHeaderSize at header moved
    show file.size - (file.tlvAt cur.data).next < fuel
    omega

/-- A TLV that is taken at a fitting head has its payload inside the file. -/
theorem FittingHead.next_inside {file : Firmware} {cur next : Cursor} {st : TlvState} {tlv : Tlv}
    (fitting : FittingHead file cur st) (header : tlvHeaderSize ≤ cur.len)
    (read : nextTlv file cur = .ok (tlv, next)) :
    (tlv, next) = (file.tlvAt cur.data, ⟨(file.tlvAt cur.data).next,
        sizeSub (cur.len - tlvHeaderSize) (lnxAlign (file.tlvAt cur.data).length 4)⟩) ∧
      (file.tlvAt cur.data).data + (file.tlvAt cur.data).length ≤ file.size := by
  rw [nextTlv_exact fitting.exact header] at read
  split at read
  · cases read
  · next inside => exact ⟨(Except.ok.inj read).symm, Nat.not_lt.mp inside⟩

/-- Fitting is kept by every turn. -/
theorem FittingHead.turn {file : Firmware} {cur next : Cursor} {st st' : TlvState}
    (fitting : FittingHead file cur st) (turn : tlvTurn file (cur, st) = .again (next, st')) :
    FittingHead file next st' := by
  obtain ⟨header, tlv, read, handled⟩ := tlvTurn_again turn
  obtain ⟨taken, inside⟩ := fitting.next_inside header read
  cases taken
  exact (fitting.handles header inside).2.2 st' handled

/-- The entry of the loop, when the header is accepted. -/
theorem tlvHeader_ok {file : Firmware} {st : TlvState} {cur : Cursor} {st' : TlvState}
    (accepted : tlvHeader file st = .ok (cur, st')) :
    tlvUcodeHeaderSize ≤ file.size ∧ leAt file.data 4 4 = tlvUcodeMagic ∧
      cur = ⟨tlvUcodeHeaderSize, file.size - tlvUcodeHeaderSize⟩ ∧ st'.pieces = st.pieces ∧
      st'.capa = st.capa := by
  have bound : file.size < 2 ^ 63 := file.size_lt
  unfold tlvHeader at accepted
  split at accepted
  · cases accepted
  · next long =>
    unfold tlvUcodeHeaderSize at long accepted ⊢
    rw [Firmware.read_inside (by omega), Firmware.read_inside (by omega),
      Firmware.read_inside (by omega), sizeSub_of_le (by omega) (by omega)] at accepted
    simp only [bind, Except.bind] at accepted
    split at accepted
    · cases accepted
    · next magic =>
      cases accepted
      exact ⟨by omega, not_not.mp magic, rfl, rfl, rfl⟩

theorem tlvHeader_inside (file : Firmware) (st : TlvState) :
    tlvHeader file st ≠ .error .outOfBounds := by
  unfold tlvHeader
  split
  · simp
  · next long =>
    unfold tlvUcodeHeaderSize at long
    rw [Firmware.read_inside (by omega), Firmware.read_inside (by omega),
      Firmware.read_inside (by omega)]
    simp only [bind, Except.bind]
    split <;> simp

/-- A file whose visited TLVs all fit is parsed through fitting heads. -/
theorem Reaches.fitting {file : Firmware} {fw : IwlFw} {capa : IwlUcodeCapabilities}
    (fit : AllFit file .empty (visitedTlvs file)) {cur : Cursor} {st : TlvState}
    (reached : Reaches file (.start fw capa) (cur, st)) : FittingHead file cur st := by
  obtain ⟨⟨cur₀, st₀⟩, accepted, head⟩ := reached
  refine head.invariant (fun head => FittingHead file head.1 head.2) ?_
    fun head next fitting turn => fitting.turn turn
  obtain ⟨long, magic, rfl, pieces, _⟩ := tlvHeader_ok accepted
  rw [visitedTlvs, if_neg (by omega)] at fit
  refine ⟨Nat.add_sub_cancel' long, .empty, tlvFuel file, ⟨?_, ?_⟩, ?_, fit⟩
  · rw [pieces]
    rfl
  · intro id
    rw [pieces]
    rfl
  · unfold tlvFuel
    dsimp only
    omega

/-- Safety of a file whose visited TLVs all fit. -/
theorem parseSafe_of_fit [WideShift] {file : Firmware} {fw : IwlFw} {capa : IwlUcodeCapabilities}
    (fit : AllFit file .empty (visitedTlvs file)) : ParseSafe file (.start fw capa) where
  terminates := iwlParseTlvFirmware_total file _
  fileHeader := tlvHeader_inside file _
  tlvHeaders cur st reached header := by
    rw [nextTlv_exact (reached.fitting fit).exact header]
    split <;> simp
  payloads cur st tlv next reached header read := by
    have fitting := reached.fitting fit
    obtain ⟨taken, inside⟩ := fitting.next_inside header read
    cases taken
    exact (fitting.handles header inside).2.1
  counter cur st reached := by
    have exact : cur.data + cur.len = file.size := (reached.fitting fit).exact
    omega
  counterAfter cur st tlv next reached header read := by
    have fitting := reached.fitting fit
    obtain ⟨taken, inside⟩ := fitting.next_inside header read
    cases taken
    have padding := (fitting.handles header inside).1
    have exact : _ + _ = file.size := fitting.exact.next header padding
    dsimp only at exact ⊢
    omega

/-- From a head of a safe parse, every visited TLV fits. -/
theorem ParseSafe.allFit [WideShift] {file : Firmware} {st₀ : TlvState} (safe : ParseSafe file st₀)
    (fuel : Nat) {cur : Cursor} {st : TlvState} {seen : DbgSeen}
    (reached : Reaches file st₀ (cur, st)) (exact : cur.Exact file) (matched : seen.Matches st) :
    AllFit file seen (visitedFrom file fuel cur.data) := by
  induction fuel generalizing cur st seen with
  | zero => exact .nil file seen
  | succ fuel ih =>
    have sum : cur.data + cur.len = file.size := exact
    rw [visitedFrom]
    split
    · exact .nil file seen
    · next long =>
      split
      · exact .nil file seen
      · next inside =>
        have header : tlvHeaderSize ≤ cur.len := by omega
        have payload := Nat.not_lt.mp inside
        have read := nextTlv_exact exact header
        rw [if_neg inside] at read
        have handled := handleTlv_handled payload matched
        -- A TLV that does not fit would make the parse unsafe at this head.
        have padding : (file.tlvAt cur.data).next ≤ file.size := by
          by_contra outside
          have wraps := counter_wraps exact header (Nat.not_le.mp outside)
          have counted := safe.counterAfter _ _ _ _ reached header read
          dsimp only at counted
          omega
        have unchecked : (file.tlvAt cur.data).data + uncheckedPart file seen
            (file.tlvAt cur.data) ≤ file.size := by
          by_contra outside
          exact safe.payloads _ _ _ _ reached header read (handled.outside (Nat.not_le.mp outside))
        rw [allFit_cons]
        refine ⟨⟨padding, unchecked⟩, ?_⟩
        cases rejected : rejects file (file.tlvAt cur.data) with
        | true => exact .nil file _
        | false =>
          obtain ⟨st', accepted, matched'⟩ := handled.accepted rejected unchecked
          obtain ⟨entry, started, head⟩ := reached
          exact ih ⟨entry, started, head.again (tlvTurn_of_handled header read accepted)⟩
            (exact.next header padding) matched'

/-- **Exactly the files whose visited TLVs fit are parsed safely.** -/
theorem parseSafe_iff [WideShift] (file : Firmware) (fw : IwlFw) (capa : IwlUcodeCapabilities) :
    ParseSafe file (.start fw capa) ↔ AllFit file .empty (visitedTlvs file) := by
  refine ⟨fun safe => ?_, parseSafe_of_fit⟩
  unfold visitedTlvs
  split
  · exact .nil file _
  · next accepted =>
    have long : tlvUcodeHeaderSize ≤ file.size := by omega
    have bound : file.size < 2 ^ 63 := file.size_lt
    cases entered : tlvHeader file (.start fw capa) with
    | error stop =>
      unfold tlvHeader at entered
      unfold tlvUcodeHeaderSize at long accepted entered
      rw [if_neg (by omega), Firmware.read_inside (by omega), Firmware.read_inside (by omega),
        Firmware.read_inside (by omega)] at entered
      simp only [bind, Except.bind] at entered
      rw [if_neg (by omega)] at entered
      cases entered
    | ok entry =>
      obtain ⟨cur, st⟩ := entry
      obtain ⟨_, _, rfl, pieces, _⟩ := tlvHeader_ok entered
      refine safe.allFit (tlvFuel file) ⟨_, entered, .start⟩
        (Nat.add_sub_cancel' long) ⟨?_, fun id => ?_⟩
      · rw [pieces]
        rfl
      · rw [pieces]
        rfl

/-- A header, and one TLV of an unknown type with one payload byte and no padding. -/
def unpaddedFile : Firmware where
  data := [0, 0, 0, 0, 0x49, 0x57, 0x4c, 0x0a] ++ List.replicate 80 0 ++ [0, 0, 0, 0, 1, 0, 0, 0, 7]
  size_lt := by decide

/-- **A file that is not padded**: the counter goes from 1 to `2 ^ 64 - 3` with nothing left. -/
theorem unpaddedFile_unsafe :
    nextTlv unpaddedFile ⟨88, 9⟩ = .ok (⟨.unknown, 96, 1⟩, ⟨100, 2 ^ 64 - 3⟩) ∧
      ∀ [WideShift], ¬ ParseSafe unpaddedFile (.start .zero zeroCapabilities) := by
  have read : nextTlv unpaddedFile ⟨88, 9⟩ = .ok (⟨.unknown, 96, 1⟩, ⟨100, 2 ^ 64 - 3⟩) := rfl
  refine ⟨read, fun {_} safe => ?_⟩
  have counted := safe.counterAfter ⟨88, 9⟩ _ _ _ ⟨_, rfl, .start⟩ (by decide) read
  exact absurd counted (by decide)

end IntelWifi.Fw
