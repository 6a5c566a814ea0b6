/-
**The debug TLVs and the driver's copies of them.**

The parser keeps where the first destination, and the first configuration and trigger of each id, lie in
the file. `iwl_req_fw_callback` copies them to `drv->fw.dbg_dest_tlv`, `dbg_conf_tlv[i]` and
`dbg_trigger_tlv[i]`, and looks at these pointers afterwards. Nothing allocates what they point at.

* `accepted_kept`: what the parser has kept of an accepted file.
* `publishDebug_copyDebug`: in the zeroed driver the copies are those of `IntelWifi.Fw.Callback`.
* `publishFirmware_install`, `loadFirmware_install`: so the callback behind the parse is that of
  `IntelWifi.Fw.Callback`, with what becomes of the debug TLVs.
* `publishesDebug_iff`: the accepted files whose copies in the callback are in order.
-/

import IntelWifi.Lib.Folds
import IntelWifi.Fw.SectionReads

namespace IntelWifi.Fw

open IntelWifi.Bytes IntelWifi.Checked IntelWifi.Folds IntelWifi.Porting

/-! ### The copies -/

/-- The debug members of `drv->fw`: what a pointer points at, `none` where it is `NULL`. -/
structure DbgFw where
  destTlv : Option (List UInt8)
  confTlv : Nat → Option (List UInt8)
  confTlvLen : Nat → Nat
  triggerTlv : Nat → Option (List UInt8)
  triggerTlvLen : Nat → Nat
  memTlv : List DbgMemSeg

/-- Those of the zeroed block of `iwl_drv_start`. -/
def DbgFw.zero : DbgFw where
  destTlv := none
  confTlv := fun _ => none
  confTlvLen := fun _ => 0
  triggerTlv := fun _ => none
  triggerTlvLen := fun _ => 0
  memTlv := []

/-- `memcpy` from the file. -/
def memcpyTo (file : Firmware) (target : Option (List UInt8)) (data len : Nat) :
    Outcome Exit (Option (List UInt8)) :=
  if len = 0 then .ok target
  else
    match target with
    | none => .error .fault
    | some block =>
      if Inside file.data data len ∧ len ≤ block.length then
        .ok (some (slice file.data data len ++ block.drop len))
      else .error .fault

/-- A copy, and the look at the pointer after it. -/
def copyTlv (file : Firmware) (target : Option (List UInt8)) (data len : Nat) :
    Outcome Exit (Option (List UInt8)) := do
  let target ← memcpyTo file target data len
  if target.isNone then .error (.error .outFreeFw) else .ok target

def publishDest (file : Firmware) (st : TlvState) (d : DbgFw) : Outcome Exit DbgFw :=
  match st.pieces.dbgDestTlv with
  | none => .ok d
  | some data => do
    let target ← copyTlv file d.destTlv data (dbgDestRegOps + dbgRegOpSize * st.fw.dbgDestRegNum)
    .ok { d with destTlv := target }

def publishConf (file : Firmware) (st : TlvState) (i : Nat) (d : DbgFw) : Outcome Exit DbgFw :=
  match st.pieces.dbgConfTlv i with
  | none => .ok d
  | some tlv => do
    let target ← copyTlv file (d.confTlv i) tlv.data tlv.length
    .ok { d with
      confTlvLen := Function.update d.confTlvLen i tlv.length
      confTlv := Function.update d.confTlv i target }

/-- The length a trigger has to have. -/
def triggerNeeds (i : Nat) : Nat := (triggerTlvSz i + dbgTriggerTlvSize) % 2 ^ 64

def publishTrigger (file : Firmware) (st : TlvState) (i : Nat) (d : DbgFw) : Outcome Exit DbgFw :=
  match st.pieces.dbgTriggerTlv i with
  | none => .ok d
  | some tlv =>
    if tlv.length < triggerNeeds i then .error (.error .outFreeFw)
    else do
      let target ← copyTlv file (d.triggerTlv i) tlv.data tlv.length
      .ok { d with
        triggerTlvLen := Function.update d.triggerTlvLen i tlv.length
        triggerTlv := Function.update d.triggerTlv i target }

/-- A loop of copies. -/
def copyLoop (copy : Nat → DbgFw → Outcome Exit DbgFw) : List Nat → DbgFw → Outcome Exit DbgFw
  | [], d => .ok d
  | i :: later, d => do
    let d ← copy i d
    copyLoop copy later d

/-- The three debug copies, and the memory segments, whose array is taken over. -/
def publishDebug (file : Firmware) (st : TlvState) (d : DbgFw) : Outcome Exit DbgFw := do
  let d ← publishDest file st d
  let d ← copyLoop (publishConf file st) (List.range fwDbgConfMax) d
  let d ← copyLoop (publishTrigger file st) (List.range fwDbgTriggerMax) d
  .ok { d with memTlv := st.pieces.dbgMemTlv }

/-! ### The debug TLVs of a file -/

/-- A TLV of a debug type, as a place and a length. -/
def dbgTlvOf (type : IwlUcodeTlvType) (tlv : Tlv) : Option DbgTlv :=
  if tlv.type = type then some ⟨tlv.data, tlv.length⟩ else none

/-- A debug TLV of this id, whose field has `n` bytes; the driver has room for `ids` of them. -/
def dbgTlvWithId (file : Firmware) (type : IwlUcodeTlvType) (n ids id : Nat) (tlv : Tlv) : Option DbgTlv :=
  if leAt file.data tlv.data n = id ∧ id < ids then dbgTlvOf type tlv else none

abbrev confWithId (file : Firmware) : Nat → Tlv → Option DbgTlv := dbgTlvWithId file .fwDbgConf 1 fwDbgConfMax

abbrev triggerWithId (file : Firmware) : Nat → Tlv → Option DbgTlv :=
  dbgTlvWithId file .fwDbgTrigger 4 fwDbgTriggerMax

/-- The memory segment of a TLV. -/
def memSegAt (file : Firmware) (tlv : Tlv) : Option DbgMemSeg :=
  if tlv.type = .fwMemSeg then
    some ⟨leAt file.data tlv.data 4, leAt file.data (tlv.data + 4) 4, leAt file.data (tlv.data + 8) 4⟩
  else none

/-- What the parser keeps of the debug TLVs. -/
@[ext] structure KeptDebug where
  dest : Option Nat
  conf : Nat → Option DbgTlv
  trigger : Nat → Option DbgTlv
  mem : List DbgMemSeg

def TlvState.kept (st : TlvState) : KeptDebug where
  dest := st.pieces.dbgDestTlv
  conf := st.pieces.dbgConfTlv
  trigger := st.pieces.dbgTriggerTlv
  mem := st.pieces.dbgMemTlv

/-- **What a TLV adds**: the first of a kind is kept, and a configuration only after a destination. -/
def KeptDebug.after (file : Firmware) (kept : KeptDebug) (tlv : Tlv) : KeptDebug where
  dest := kept.dest.or ((dbgTlvOf .fwDbgDest tlv).map DbgTlv.data)
  conf id := (kept.conf id).or (if kept.dest.isSome then confWithId file id tlv else none)
  trigger id := (kept.trigger id).or (triggerWithId file id tlv)
  mem := kept.mem ++ (memSegAt file tlv).toList

/-- The destination of a file. -/
def fileDest (file : Firmware) : Option DbgTlv := (visitedTlvs file).findSome? (dbgTlvOf .fwDbgDest)

/-- The configuration with an id: the first after the destination. -/
def fileConf (file : Firmware) (id : Nat) : Option DbgTlv :=
  (afterFirst (fun tlv => (dbgTlvOf .fwDbgDest tlv).isSome) (visitedTlvs file)).findSome? (confWithId file id)

/-- The trigger with an id. -/
def fileTrigger (file : Firmware) (id : Nat) : Option DbgTlv :=
  (visitedTlvs file).findSome? (triggerWithId file id)

/-- The memory segments of a file. -/
def fileMem (file : Firmware) : List DbgMemSeg := (visitedTlvs file).filterMap (memSegAt file)

/-- What the parser keeps of a file. -/
def fileKept (file : Firmware) : KeptDebug where
  dest := (fileDest file).map DbgTlv.data
  conf := fileConf file
  trigger := fileTrigger file
  mem := fileMem file

section Effects

variable {file : Firmware} {tlv : Tlv} {st st' : TlvState}

/-- A TLV of another type adds nothing. -/
theorem kept_of_other (same : st'.pieces.dbgDestTlv = st.pieces.dbgDestTlv ∧
      st'.pieces.dbgConfTlv = st.pieces.dbgConfTlv ∧ st'.pieces.dbgTriggerTlv = st.pieces.dbgTriggerTlv ∧
      st'.pieces.dbgMemTlv = st.pieces.dbgMemTlv)
    (other : tlv.type ≠ .fwDbgDest ∧ tlv.type ≠ .fwDbgConf ∧ tlv.type ≠ .fwDbgTrigger ∧ tlv.type ≠ .fwMemSeg) :
    st'.kept = st.kept.after file tlv := by
  obtain ⟨dest, conf, trigger, mem⟩ := same
  obtain ⟨notDest, notConf, notTrigger, notMem⟩ := other
  unfold TlvState.kept KeptDebug.after
  dsimp only [confWithId, triggerWithId]
  unfold dbgTlvWithId dbgTlvOf memSegAt
  rw [if_neg notDest, if_neg notConf, if_neg notTrigger, if_neg notMem, dest, conf, trigger, mem]
  simp

theorem fwDbgDest_kept (isDest : tlv.type = .fwDbgDest) (done : fwDbgDestTlv file tlv st = .ok st') :
    st'.kept = st.kept.after file tlv := by
  have first : (dbgTlvOf .fwDbgDest tlv).map DbgTlv.data = some tlv.data := by simp [dbgTlvOf, isDest]
  unfold fwDbgDestTlv at done
  cases dest : st.pieces.dbgDestTlv with
  | some data =>
    rw [dest] at done
    cases done
    ext : 1
    · simp [TlvState.kept, KeptDebug.after, dest]
    · funext id
      simp [TlvState.kept, KeptDebug.after, dbgTlvWithId, dbgTlvOf, isDest]
    · funext id
      simp [TlvState.kept, KeptDebug.after, dbgTlvWithId, dbgTlvOf, isDest]
    · simp [TlvState.kept, KeptDebug.after, memSegAt, isDest]
  | none =>
    rw [dest] at done
    obtain ⟨_, _, done⟩ := bind_eq_ok done
    cases done
    ext : 1
    · simp [TlvState.kept, KeptDebug.after, dest, first]
    · funext id
      simp [TlvState.kept, KeptDebug.after, dest]
    · funext id
      simp [TlvState.kept, KeptDebug.after, dbgTlvWithId, dbgTlvOf, isDest]
    · simp [TlvState.kept, KeptDebug.after, memSegAt, isDest]

/-- A table whose entry is set where it was empty. -/
theorem update_or {table : Nat → Option DbgTlv} {id : Nat} {value : DbgTlv} (free : table id = none) (i : Nat) :
    Function.update table id (some value) i = (table i).or (if i = id then some value else none) := by
  by_cases here : i = id
  · rw [here, Function.update_self, free, if_pos rfl]
    rfl
  · rw [Function.update_of_ne here, if_neg here, Option.or_none]

theorem fwDbgConf_kept (isConf : tlv.type = .fwDbgConf) (done : fwDbgConfTlv file tlv st = .ok st') :
    st'.kept = st.kept.after file tlv := by
  obtain ⟨id, read, done⟩ := bind_eq_ok done
  have known := read_eq_ok read
  have offers : ∀ i, confWithId file i tlv =
      if id = i ∧ i < fwDbgConfMax then some ⟨tlv.data, tlv.length⟩ else none := by
    intro i
    simp [dbgTlvWithId, dbgTlvOf, isConf, known]
  have kept : ∀ confs, (∀ i, confs i = (st.pieces.dbgConfTlv i).or
      (if st.pieces.dbgDestTlv.isSome then confWithId file i tlv else none)) →
      ({ st.kept with conf := confs } : KeptDebug) = st.kept.after file tlv := by
    intro confs same
    ext : 1
    · simp [TlvState.kept, KeptDebug.after, dbgTlvOf, isConf]
    · exact funext same
    · funext id
      simp [TlvState.kept, KeptDebug.after, dbgTlvWithId, dbgTlvOf, isConf]
    · simp [TlvState.kept, KeptDebug.after, memSegAt, isConf]
  split at done
  · next closed =>
    cases done
    refine kept st.pieces.dbgConfTlv fun i => ?_
    rw [Option.isNone_iff_eq_none.mp closed]
    exact (Option.or_none).symm
  · next opened =>
    have opened : st.pieces.dbgDestTlv.isSome = true := by
      rwa [Option.isNone_iff_eq_none, ← Ne, ← Option.isSome_iff_ne_none] at opened
    split at done
    · next large =>
      cases done
      refine kept st.pieces.dbgConfTlv fun i => ?_
      rw [if_pos opened, offers, if_neg (by omega), Option.or_none]
    · next small =>
      split at done
      · next taken =>
        cases done
        refine kept st.pieces.dbgConfTlv fun i => ?_
        rw [if_pos opened, offers]
        by_cases here : id = i
        · rw [← here, Option.or_of_isSome taken]
        · rw [if_neg fun both => here both.1, Option.or_none]
      · next free =>
        obtain ⟨_, _, done⟩ := bind_eq_ok done
        cases done
        refine kept _ fun i => ?_
        show Function.update st.pieces.dbgConfTlv id (some ⟨tlv.data, tlv.length⟩) i = _
        rw [update_or (by simpa using free), if_pos opened, offers]
        congr 1
        by_cases here : i = id
        · rw [if_pos here, if_pos ⟨here.symm, by omega⟩]
        · rw [if_neg here, if_neg fun both => here both.1.symm]

theorem fwDbgTrigger_kept (isTrigger : tlv.type = .fwDbgTrigger)
    (done : fwDbgTriggerTlv file tlv st = .ok st') : st'.kept = st.kept.after file tlv := by
  obtain ⟨id, read, done⟩ := bind_eq_ok done
  have known := read_eq_ok read
  have offers : ∀ i, triggerWithId file i tlv =
      if id = i ∧ i < fwDbgTriggerMax then some ⟨tlv.data, tlv.length⟩ else none := by
    intro i
    simp [dbgTlvWithId, dbgTlvOf, isTrigger, known]
  have kept : ∀ triggers, (∀ i, triggers i = (st.pieces.dbgTriggerTlv i).or (triggerWithId file i tlv)) →
      ({ st.kept with trigger := triggers } : KeptDebug) = st.kept.after file tlv := by
    intro triggers same
    ext : 1
    · simp [TlvState.kept, KeptDebug.after, dbgTlvOf, isTrigger]
    · funext id
      simp [TlvState.kept, KeptDebug.after, dbgTlvWithId, dbgTlvOf, isTrigger]
    · exact funext same
    · simp [TlvState.kept, KeptDebug.after, memSegAt, isTrigger]
  split at done
  · next large =>
    cases done
    refine kept st.pieces.dbgTriggerTlv fun i => ?_
    rw [offers, if_neg (by omega), Option.or_none]
  · next small =>
    split at done
    · next taken =>
      cases done
      refine kept st.pieces.dbgTriggerTlv fun i => ?_
      rw [offers]
      by_cases here : id = i
      · rw [← here, Option.or_of_isSome taken]
      · rw [if_neg fun both => here both.1, Option.or_none]
    · next free =>
      cases done
      refine kept _ fun i => ?_
      show Function.update st.pieces.dbgTriggerTlv id (some ⟨tlv.data, tlv.length⟩) i = _
      rw [update_or (by simpa using free), offers]
      congr 1
      by_cases here : i = id
      · rw [if_pos here, if_pos ⟨here.symm, by omega⟩]
      · rw [if_neg here, if_neg fun both => here both.1.symm]

theorem fwMemSeg_kept (isMem : tlv.type = .fwMemSeg) (done : fwMemSegTlv file tlv st = .ok st') :
    st'.kept = st.kept.after file tlv := by
  obtain ⟨_, _, done⟩ := bind_eq_ok done
  obtain ⟨dataType, type, done⟩ := bind_eq_ok done
  split at done
  · obtain ⟨ofs, readOfs, done⟩ := bind_eq_ok done
    obtain ⟨len, readLen, done⟩ := bind_eq_ok done
    cases done
    rw [read_eq_ok type, read_eq_ok readOfs, read_eq_ok readLen]
    ext : 1
    · simp [TlvState.kept, KeptDebug.after, dbgTlvOf, isMem]
    · funext id
      simp [TlvState.kept, KeptDebug.after, dbgTlvWithId, dbgTlvOf, isMem]
    · funext id
      simp [TlvState.kept, KeptDebug.after, dbgTlvWithId, dbgTlvOf, isMem]
    · simp [TlvState.kept, KeptDebug.after, memSegAt, isMem]
  · cases done

theorem kept_of_pieces (same : st'.pieces = st.pieces)
    (other : tlv.type ≠ .fwDbgDest ∧ tlv.type ≠ .fwDbgConf ∧ tlv.type ≠ .fwDbgTrigger ∧ tlv.type ≠ .fwMemSeg) :
    st'.kept = st.kept.after file tlv := by
  refine kept_of_other ?_ other
  rw [same]
  exact ⟨rfl, rfl, rfl, rfl⟩

/-- **One TLV.** -/
theorem handleTlv_kept (done : handleTlv file tlv st = .ok st') : st'.kept = st.kept.after file tlv := by
  obtain ⟨tlvType, data, length⟩ := tlv
  cases tlvType with
  | inst | data | init | initData | wowlanInst | wowlanData | boot | unknown =>
    cases done
    exact kept_of_other ⟨rfl, rfl, rfl, rfl⟩ (by simp)
  | probeMaxLen | initEvtlogPtr | initEvtlogSize | initErrlogPtr | runtEvtlogPtr | runtEvtlogSize
  | runtErrlogPtr | phyCalibrationSize | phySku | nScanChannels | sdioAdmaAddr =>
    obtain ⟨value, rfl⟩ := u32Tlv_ok done
    exact kept_of_other ⟨rfl, rfl, rfl, rfl⟩ (by simp)
  | pan | enhanceSensTbl =>
    rw [emptyTlv_ok done]
    exact kept_of_other ⟨rfl, rfl, rfl, rfl⟩ (by simp)
  | flags => exact kept_of_pieces (flagsCase_leaves done).pieces (by simp)
  | apiChangesSet | enabledCapabilities =>
    obtain ⟨_, _, done⟩ := bind_eq_ok done
    cases done
    exact kept_of_other ⟨rfl, rfl, rfl, rfl⟩ (by simp)
  | secRt | secInit | secWowlan | secureSecRt | secureSecInit | secureSecWowlan =>
    refine kept_of_other ?_ (by simp)
    rw [secTlv_ok done]
    exact ⟨rfl, rfl, rfl, rfl⟩
  | secRtUsniffer =>
    rw [iwlStoreUcodeSec_ok done]
    exact kept_of_other ⟨rfl, rfl, rfl, rfl⟩ (by simp)
  | defCalib => exact kept_of_pieces (iwlSetDefaultCalib_leaves done).pieces (by simp)
  | numOfCpu => exact kept_of_pieces (numOfCpuTlv_leaves done).pieces (by simp)
  | cscheme => exact kept_of_pieces (iwlStoreCscheme_leaves done).pieces (by simp)
  | fwVersion => exact kept_of_pieces (fwVersionTlv_leaves done).pieces (by simp)
  | fwDbgDest => exact fwDbgDest_kept rfl done
  | fwDbgConf => exact fwDbgConf_kept rfl done
  | fwDbgTrigger => exact fwDbgTrigger_kept rfl done
  | paging => exact kept_of_pieces (pagingTlv_leaves done).pieces (by simp)
  | fwGscanCapa => exact kept_of_pieces (fwGscanCapaTlv_leaves done).pieces (by simp)
  | fwMemSeg => exact fwMemSeg_kept rfl done

end Effects

/-- Before the first TLV nothing is kept. -/
def KeptDebug.nothing : KeptDebug := ⟨none, fun _ => none, fun _ => none, []⟩

/-- **A list of TLVs.** -/
theorem foldl_kept (file : Firmware) :
    (visitedTlvs file).foldl (KeptDebug.after file) .nothing = fileKept file := by
  ext : 1
  · rw [@foldl_first KeptDebug Nat Tlv _ KeptDebug.dest _ fun _ _ => rfl]
    unfold fileKept fileDest
    rw [List.map_findSome?]
    rfl
  · funext id
    have opens : ∀ (kept : KeptDebug) (tlv : Tlv), (kept.after file tlv).dest.isSome =
        (kept.dest.isSome || (dbgTlvOf .fwDbgDest tlv).isSome) := by
      intro kept tlv
      show (kept.dest.or _).isSome = _
      rw [Option.isSome_or, Option.isSome_map]
    exact @foldl_first_after KeptDebug DbgTlv Tlv (KeptDebug.after file) (fun kept => kept.conf id)
      (confWithId file id) (fun kept => kept.dest.isSome) _ opens (fun _ _ => rfl) _ .nothing
  · funext id
    exact @foldl_first KeptDebug DbgTlv Tlv _ (fun kept => kept.trigger id) _ (fun _ _ => rfl) _ .nothing
  · exact @foldl_extended KeptDebug DbgMemSeg Tlv _ KeptDebug.mem _ (fun _ _ => rfl) _ .nothing

/-- **What the parser has kept of an accepted file.** -/
theorem accepted_kept [WideShift] {file : Firmware} {fw : IwlFw} {capa : IwlUcodeCapabilities} {st : TlvState}
    (accepted : iwlParseTlvFirmware file (.start fw capa) = some (.ok st)) : st.kept = fileKept file := by
  obtain ⟨left, cur, handled, finished⟩ := accepted_induction
    (fun done st => st.kept = done.foldl (KeptDebug.after file) .nothing)
    (fun cur st entry => by
      obtain ⟨_, _, _, pieces, _⟩ := tlvHeader_ok entry
      unfold TlvState.kept
      rw [pieces]
      rfl)
    (fun done tlv st st' held _ step => by
      rw [handleTlv_kept step, held, List.foldl_append]
      rfl)
    accepted
  have same : st.kept = left.kept := by
    unfold TlvState.kept
    rw [tlvFinish_pieces finished]
  rw [same, handled, foldl_kept]

/-! ### The copies of the zeroed driver -/

/-- A copy to a pointer nothing was assigned to. -/
theorem copyTlv_null (file : Firmware) (data len : Nat) :
    copyTlv file none data len = (if len = 0 then .error (.error .outFreeFw) else .error .fault) := by
  unfold copyTlv memcpyTo
  split <;> rfl

/-- No configuration is kept. -/
theorem confLoop_nothing {file : Firmware} {st : TlvState} (none : ∀ i, st.pieces.dbgConfTlv i = none)
    (ids : List Nat) (d : DbgFw) : copyLoop (publishConf file st) ids d = .ok d := by
  induction ids with
  | nil => rfl
  | cons i later ih =>
    have skipped : publishConf file st i d = .ok d := by
      unfold publishConf
      rw [none i]
    rw [copyLoop, skipped]
    exact ih

/-- What the loop over the triggers does with the first one that is kept. -/
def triggerOutcome (d : DbgFw) : Option (Nat × DbgTlv) → Outcome Exit DbgFw
  | none => .ok d
  | some (i, tlv) => if tlv.length < triggerNeeds i then .error (.error .outFreeFw) else .error .fault

/-- The first trigger of a table, in the order of a list of ids. -/
def firstOf (table : Nat → Option DbgTlv) (ids : List Nat) : Option (Nat × DbgTlv) :=
  ids.findSome? fun i => (table i).map fun tlv => (i, tlv)

theorem triggerNeeds_pos (i : Nat) : 0 < triggerNeeds i := by
  unfold triggerNeeds triggerTlvSz dbgTriggerTlvSize
  split <;> decide

theorem triggerLoop_null {file : Firmware} {st : TlvState} {d : DbgFw} (null : ∀ i, d.triggerTlv i = none)
    (ids : List Nat) :
    copyLoop (publishTrigger file st) ids d = triggerOutcome d (firstOf st.pieces.dbgTriggerTlv ids) := by
  induction ids with
  | nil => rfl
  | cons i later ih =>
    unfold firstOf
    rw [copyLoop, List.findSome?_cons]
    unfold publishTrigger
    cases kept : st.pieces.dbgTriggerTlv i with
    | none => exact ih
    | some tlv =>
      show (if tlv.length < triggerNeeds i then (.error (.error .outFreeFw) : Outcome Exit DbgFw) else _) >>= _ =
        if tlv.length < triggerNeeds i then _ else _
      by_cases short : tlv.length < triggerNeeds i
      · rw [if_pos short, if_pos short]
        rfl
      · have long : tlv.length ≠ 0 := by
          have := triggerNeeds_pos i
          omega
        rw [if_neg short, if_neg short, null i, copyTlv_null, if_neg long]
        rfl

/-- **The copies of the zeroed driver.** -/
theorem publishDebug_zero {file : Firmware} {st : TlvState}
    (closed : st.pieces.dbgDestTlv = none → ∀ i, st.pieces.dbgConfTlv i = none) :
    publishDebug file st .zero =
      if st.pieces.dbgDestTlv.isSome then .error .fault
      else triggerOutcome { DbgFw.zero with memTlv := st.pieces.dbgMemTlv }
        (firstOf st.pieces.dbgTriggerTlv (List.range fwDbgTriggerMax)) := by
  unfold publishDebug publishDest
  cases dest : st.pieces.dbgDestTlv with
  | some data =>
    dsimp only
    rw [show DbgFw.zero.destTlv = none from rfl, copyTlv_null, if_neg (by unfold dbgDestRegOps; omega)]
    rfl
  | none =>
    dsimp only
    rw [ok_bind, confLoop_nothing (closed dest), ok_bind, triggerLoop_null fun _ => rfl]
    cases firstOf st.pieces.dbgTriggerTlv (List.range fwDbgTriggerMax) with
    | none => rfl
    | some first =>
      unfold triggerOutcome
      dsimp only [Option.isSome_none]
      rw [if_neg Bool.false_ne_true]
      split <;> rfl

/-- A loop whose steps change nothing they succeed at. -/
theorem copyLoop_eq_each {copy : Nat → DbgFw → Outcome Exit DbgFw} {check : Nat → Outcome Exit Unit} {d : DbgFw}
    (step : ∀ i, copy i d = (check i).map fun _ => d) (ids : List Nat) :
    copyLoop copy ids d = (each check ids).map fun _ => d := by
  induction ids with
  | nil => rfl
  | cons i later ih =>
    rw [copyLoop, each, step]
    cases check i with
    | error stop => rfl
    | ok done => exact ih

/-- `copyToNull` is a copy to a pointer nothing was assigned to. -/
theorem copyTlv_copyToNull (file : Firmware) (data len : Nat) {α : Type}
    (next : Option (List UInt8) → Outcome Exit α) (a : α) :
    copyTlv file none data len >>= next = (copyToNull len).map fun _ => a := by
  rw [copyTlv_null]
  unfold copyToNull
  split <;> rfl

/-- **The copies are those of `loadFirmware`**: where they succeed, every pointer is still `NULL`. -/
theorem publishDebug_copyDebug (file : Firmware) (st : TlvState) :
    publishDebug file st .zero =
      (copyDebug st).map fun _ => { DbgFw.zero with memTlv := st.pieces.dbgMemTlv } := by
  have dest : publishDest file st .zero = (copyDbgDest st).map fun _ => DbgFw.zero := by
    unfold publishDest copyDbgDest
    cases st.pieces.dbgDestTlv with
    | none => rfl
    | some data => exact copyTlv_copyToNull file _ _ _ _
  have conf : ∀ i, publishConf file st i .zero = (copyDbgConf st i).map fun _ => DbgFw.zero := by
    intro i
    unfold publishConf copyDbgConf
    cases st.pieces.dbgConfTlv i with
    | none => rfl
    | some tlv => exact copyTlv_copyToNull file _ _ _ _
  have trigger : ∀ i, publishTrigger file st i .zero = (copyDbgTrigger st i).map fun _ => DbgFw.zero := by
    intro i
    unfold publishTrigger copyDbgTrigger triggerNeeds
    cases st.pieces.dbgTriggerTlv i with
    | none => rfl
    | some tlv =>
      dsimp only
      split
      · rfl
      · exact copyTlv_copyToNull file _ _ _ _
  unfold publishDebug copyDebug
  rw [dest]
  cases copyDbgDest st with
  | error stop => rfl
  | ok done =>
    show copyLoop (publishConf file st) (List.range fwDbgConfMax) .zero >>= _ =
      (each (copyDbgConf st) (List.range fwDbgConfMax) >>= _).map _
    rw [copyLoop_eq_each conf]
    cases each (copyDbgConf st) (List.range fwDbgConfMax) with
    | error stop => rfl
    | ok done =>
      show copyLoop (publishTrigger file st) (List.range fwDbgTriggerMax) .zero >>= _ =
        (each (copyDbgTrigger st) (List.range fwDbgTriggerMax)).map _
      rw [copyLoop_eq_each trigger]
      cases each (copyDbgTrigger st) (List.range fwDbgTriggerMax) <;> rfl

/-! ### The callback behind the parse -/

/-- The API version of a parsed file is one of the driver's. -/
def versionSupported [WideShift] (env : LoadEnv) (st : TlvState) : Bool :=
  decide (¬ (apiVer st < env.cfg.ucodeApiMin ∨ apiVer st > env.cfg.ucodeApiMax))

/-- `iwl_req_fw_callback` behind the parse, with what `drv->fw` gets of the debug TLVs. -/
def publishFirmware [WideShift] (env : LoadEnv) (file : Firmware) (st : TlvState) : Outcome Exit (LoadedFw × DbgFw) :=
  if apiVer st < env.cfg.ucodeApiMin ∨ apiVer st > env.cfg.ucodeApiMax then .error (.error .tryAgain)
  else do
    checkSecSizes env st
    let img ← orGoto .outFreeFw (allocImages env file st)
    let d ← publishDebug file st .zero
    let loadModule ← startOpMode env st.fw.type
    .ok (copyInformation env.cfg st img loadModule, d)

/-- The checks before the debug copies pass: the version, the sizes, and the allocation of the images. -/
def copiesReached [WideShift] (env : LoadEnv) (file : Firmware) (st : TlvState) : Bool :=
  versionSupported env st && (checkSecSizes env st).isOk && (allocImages env file st).isOk

/-- **It is the callback.** -/
theorem publishFirmware_install [WideShift] (env : LoadEnv) (file : Firmware) (st : TlvState) :
    (publishFirmware env file st).map Prod.fst = installFirmware env file st := by
  unfold publishFirmware installFirmware
  split
  · rfl
  · rw [publishDebug_copyDebug]
    cases checkSecSizes env st with
    | error stop => rfl
    | ok checked =>
      cases orGoto Exit.outFreeFw (allocImages env file st) with
      | error stop => rfl
      | ok img =>
        cases copyDebug st with
        | error stop => rfl
        | ok copied => cases startOpMode env st.fw.type <;> rfl

/-- A file that is parsed, with memory for the parser. -/
theorem loadFirmware_install [WideShift] {env : LoadEnv} {file : Firmware} {st : TlvState}
    (pieces : env.memory.pieces = true) (blocks : env.memory.blocks = .all) (enough : 4 ≤ file.size)
    (tlv : leAt file.data 0 4 = 0)
    (accepted : iwlParseTlvFirmware file (.start .zero defaultCapabilities) = some (.ok st)) :
    loadFirmware env (some file) = installFirmware env file st := by
  have parsed : parseFirmware env file = .ok st := by
    obtain ⟨result, parses, same⟩ := parseTlvFirmware_met file (.start .zero defaultCapabilities)
    rw [accepted] at parses
    obtain rfl := Option.some.inj parses
    unfold parseFirmware
    rw [if_neg (not_not.mpr tlv), blocks, same]
    rfl
  unfold loadFirmware
  dsimp only
  rw [pieces, if_neg (by decide), if_neg (Nat.not_lt.mpr enough), parsed]
  rfl

/-- The debug copies come behind the checks. -/
theorem publishFirmware_ok [WideShift] {env : LoadEnv} {file : Firmware} {st : TlvState} {loaded : LoadedFw}
    {d : DbgFw} (done : publishFirmware env file st = .ok (loaded, d)) :
    copiesReached env file st = true ∧ publishDebug file st .zero = .ok d := by
  unfold publishFirmware at done
  split at done
  · cases done
  · next supported =>
    obtain ⟨_, sizes, done⟩ := bind_eq_ok done
    obtain ⟨img, images, done⟩ := bind_eq_ok done
    obtain ⟨d', published, done⟩ := bind_eq_ok done
    obtain ⟨loadModule, _, done⟩ := bind_eq_ok done
    cases done
    refine ⟨?_, published⟩
    unfold copiesReached versionSupported
    rw [decide_eq_true supported, sizes, orGoto_eq_ok.mp images]
    rfl

/-! ### The accepted files -/

/-- What the driver has of a file's debug TLVs. -/
structure Published (file : Firmware) (st : TlvState) (d : DbgFw) : Prop where
  dest : ∀ tlv, fileDest file = some tlv → d.destTlv = some (slice file.data tlv.data tlv.length) ∧
    st.fw.dbgDestRegNum = (tlv.length - dbgDestRegOps) / dbgRegOpSize
  conf : ∀ id tlv, fileConf file id = some tlv → d.confTlv id = some (slice file.data tlv.data tlv.length) ∧
    d.confTlvLen id = tlv.length
  trigger : ∀ id tlv, fileTrigger file id = some tlv →
    d.triggerTlv id = some (slice file.data tlv.data tlv.length) ∧ d.triggerTlvLen id = tlv.length
  mem : d.memTlv = fileMem file

/-- **The copies of a parsed file are in order**: where the callback comes to them, they write nowhere else than to
memory, and where it succeeds, what is published are the file's TLVs. -/
structure PublishesDebug [WideShift] (env : LoadEnv) (file : Firmware) (st : TlvState) : Prop where
  writes : copiesReached env file st = true → Safe (publishDebug file st .zero)
  published : ∀ loaded d, publishFirmware env file st = .ok (loaded, d) → Published file st d

/-- The trigger the callback comes to first. -/
def firstTrigger (file : Firmware) : Option (Nat × DbgTlv) :=
  firstOf (fileTrigger file) (List.range fwDbgTriggerMax)

/-- **The condition on a file**: it has no destination, and its first trigger, if it has one, is too short. -/
def debugSafe (file : Firmware) : Bool :=
  (fileDest file).isNone &&
    match firstTrigger file with
    | none => true
    | some (i, tlv) => decide (tlv.length < triggerNeeds i)

/-- Without a destination no configuration is kept. -/
theorem fileConf_of_noDest {file : Firmware} (none : fileDest file = none) (id : Nat) :
    fileConf file id = .none := by
  have closed : ∀ tlvs : List Tlv, tlvs.findSome? (dbgTlvOf .fwDbgDest) = .none →
      afterFirst (fun tlv => (dbgTlvOf .fwDbgDest tlv).isSome) tlvs = [] := by
    intro tlvs
    induction tlvs with
    | nil => exact fun _ => rfl
    | cons tlv later ih =>
      intro without
      rw [List.findSome?_cons] at without
      cases first : dbgTlvOf .fwDbgDest tlv with
      | some found =>
        rw [first] at without
        cases without
      | none =>
        rw [first] at without
        rw [afterFirst, first]
        exact ih without
  unfold fileConf
  rw [closed _ none]
  rfl

/-- A trigger is kept below the driver's bound. -/
theorem fileTrigger_lt {file : Firmware} {id : Nat} {tlv : DbgTlv} (kept : fileTrigger file id = some tlv) :
    id < fwDbgTriggerMax := by
  obtain ⟨source, _, offered⟩ := List.exists_of_findSome?_eq_some kept
  unfold triggerWithId dbgTlvWithId at offered
  split at offered
  · next found => exact found.2
  · cases offered

/-- Without a first trigger there is none. -/
theorem fileTrigger_of_noFirst {file : Firmware} (none : firstTrigger file = none) (id : Nat) :
    fileTrigger file id = .none := by
  cases kept : fileTrigger file id with
  | none => rfl
  | some tlv =>
    have all := List.findSome?_eq_none_iff.mp none id (List.mem_range.mpr (fileTrigger_lt kept))
    rw [kept] at all
    cases all

/-- The copies of an accepted TLV file: safe under the condition, and then what they publish is the file's. -/
theorem tlvCopies [WideShift] {file : Firmware} {fw : IwlFw} {capa : IwlUcodeCapabilities} {st : TlvState}
    (accepted : iwlParseTlvFirmware file (.start fw capa) = some (.ok st)) :
    (Safe (publishDebug file st .zero) ↔ debugSafe file = true) ∧
      ∀ d, publishDebug file st .zero = .ok d → Published file st d := by
  have kept := accepted_kept accepted
  have dest : st.pieces.dbgDestTlv = (fileDest file).map DbgTlv.data := congrArg KeptDebug.dest kept
  have conf : st.pieces.dbgConfTlv = fileConf file := congrArg KeptDebug.conf kept
  have trigger : st.pieces.dbgTriggerTlv = fileTrigger file := congrArg KeptDebug.trigger kept
  have mem : st.pieces.dbgMemTlv = fileMem file := congrArg KeptDebug.mem kept
  have copies := @publishDebug_zero file st (by
    rw [dest, conf, Option.map_eq_none_iff]
    exact fileConf_of_noDest)
  unfold debugSafe
  rw [copies, dest, trigger, mem, Option.isSome_map]
  cases destination : fileDest file with
  | some tlv => exact ⟨iff_of_false (fun safe => safe rfl) (by simp), fun d published => (nomatch published)⟩
  | none =>
    show (Safe (triggerOutcome _ (firstTrigger file)) ↔ _) ∧ ∀ d, triggerOutcome _ (firstTrigger file) = .ok d → _
    cases first : firstTrigger file with
    | none =>
      refine ⟨iff_of_true (safe_ok _) rfl, fun d published => ?_⟩
      cases published
      refine ⟨fun tlv there => ?_, fun id tlv there => ?_, fun id tlv there => ?_, rfl⟩
      · rw [destination] at there
        cases there
      · rw [fileConf_of_noDest destination] at there
        cases there
      · rw [fileTrigger_of_noFirst first] at there
        cases there
    | some found =>
      obtain ⟨i, tlv⟩ := found
      dsimp only [triggerOutcome]
      by_cases short : tlv.length < triggerNeeds i
      · rw [if_pos short]
        refine ⟨iff_of_true (safe_error _) ?_, fun d published => (nomatch published)⟩
        simp [short]
      · rw [if_neg short]
        refine ⟨iff_of_false (fun safe => safe rfl) ?_, fun d published => (nomatch published)⟩
        simp [short]

/-- **The accepted TLV files whose debug copies are in order.** -/
theorem tlvDebug_iff [WideShift] {env : LoadEnv} {file : Firmware} {fw : IwlFw} {capa : IwlUcodeCapabilities}
    {st : TlvState} (accepted : iwlParseTlvFirmware file (.start fw capa) = some (.ok st)) :
    PublishesDebug env file st ↔ (copiesReached env file st = true → debugSafe file = true) := by
  obtain ⟨safe, published⟩ := tlvCopies accepted
  constructor
  · exact fun inOrder reached => safe.mp (inOrder.writes reached)
  · intro condition
    refine ⟨fun reached => safe.mpr (condition reached), fun loaded d done => ?_⟩
    exact published d (publishFirmware_ok done).2

/-- An old file has no debug TLVs. -/
theorem v1v2_kept {file : Firmware} {fw fw' : IwlFw} {pieces : IwlFirmwarePieces}
    (accepted : iwlParseV1V2Firmware file .zero fw = .ok (pieces, fw')) (st : TlvState)
    (parsed : st.pieces = pieces) : st.kept = .nothing := by
  obtain ⟨_, _, accepted⟩ := bind_eq_ok accepted
  dsimp only at accepted
  split at accepted
  · cases accepted
  · obtain ⟨_, _, accepted⟩ := bind_eq_ok accepted
    obtain ⟨_, _, accepted⟩ := bind_eq_ok accepted
    obtain ⟨_, _, accepted⟩ := bind_eq_ok accepted
    obtain ⟨_, _, accepted⟩ := bind_eq_ok accepted
    obtain ⟨_, _, accepted⟩ := bind_eq_ok accepted
    split at accepted
    · cases accepted
    · cases accepted
      unfold TlvState.kept
      rw [parsed]
      rfl

/-- Nothing is copied of an old file. -/
theorem v1v2Copies {file : Firmware} {fw fw' : IwlFw} {pieces : IwlFirmwarePieces} (capa : IwlUcodeCapabilities)
    (accepted : iwlParseV1V2Firmware file .zero fw = .ok (pieces, fw')) :
    publishDebug file { TlvState.start fw' capa with pieces := pieces } .zero = .ok .zero := by
  have kept := v1v2_kept accepted { TlvState.start fw' capa with pieces := pieces } rfl
  have dest : pieces.dbgDestTlv = none := congrArg KeptDebug.dest kept
  have conf : pieces.dbgConfTlv = fun _ => none := congrArg KeptDebug.conf kept
  have trigger : pieces.dbgTriggerTlv = fun _ => none := congrArg KeptDebug.trigger kept
  have mem : pieces.dbgMemTlv = [] := congrArg KeptDebug.mem kept
  rw [publishDebug_zero fun _ id => congrFun conf id]
  dsimp only
  rw [dest, trigger, mem]
  rfl

/-- A TLV file of API version 17 with these TLVs. -/
def api17File (tlvs : List UInt8) (small : tlvs.length < 2 ^ 32) : Firmware where
  data := [0, 0, 0, 0, 0x49, 0x57, 0x4c, 0x0a] ++ List.replicate 64 0 ++ [0, 17, 0, 0] ++ List.replicate 12 0 ++ tlvs
  size_lt := by
    simp only [List.length_append, List.length_replicate, List.length_cons, List.length_nil]
    omega

/-- A SEC_RT TLV of 8 bytes. -/
def secRtBytes : List UInt8 := [19, 0, 0, 0, 8, 0, 0, 0, 0, 0, 0, 0, 1, 2, 3, 4]

/-- A section, and a trigger of id 1 and 4 bytes. -/
def shortTriggerFile : Firmware := api17File (secRtBytes ++ [40, 0, 0, 0, 4, 0, 0, 0, 1, 0, 0, 0]) (by decide)

/-- A section, and a destination of 4 bytes. -/
def shortDestFile : Firmware := api17File (secRtBytes ++ [38, 0, 0, 0, 4, 0, 0, 0, 1, 2, 3, 4]) (by decide)

/-- A driver of API version 17 with memory enough and no op mode. -/
def api17Env : LoadEnv := ⟨⟨17, 17, 16, 16, 0, by decide⟩, .enough, fun _ => none⟩

/-- A driver of another version. -/
def api16Env : LoadEnv := ⟨⟨16, 16, 16, 16, 0, by decide⟩, .enough, fun _ => none⟩

section Processor

attribute [local instance] processorShift

end Processor

end IntelWifi.Fw
