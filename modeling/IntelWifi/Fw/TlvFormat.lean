/-
**Writing a TLV file.**

A file is written from a header and a list of TLVs, each padded to a multiple of 4. The parser finds the
TLVs again, in order and with their payloads, and handles every one.

* `run_written`: the loop over a written file ends at its end, and has done what the TLVs mean, from left
  to right.
-/

import IntelWifi.Fw.TlvMeaning

namespace IntelWifi.Fw

open IntelWifi.Bytes IntelWifi.Loop

/-- The number of a known type. -/
def IwlUcodeTlvType.toLe32 : IwlUcodeTlvType → Nat
  | .inst => 1 | .data => 2 | .init => 3 | .initData => 4 | .boot => 5
  | .probeMaxLen => 6 | .pan => 7
  | .runtEvtlogPtr => 8 | .runtEvtlogSize => 9 | .runtErrlogPtr => 10
  | .initEvtlogPtr => 11 | .initEvtlogSize => 12 | .initErrlogPtr => 13
  | .enhanceSensTbl => 14 | .phyCalibrationSize => 15
  | .wowlanInst => 16 | .wowlanData => 17
  | .flags => 18
  | .secRt => 19 | .secInit => 20 | .secWowlan => 21
  | .defCalib => 22 | .phySku => 23
  | .secureSecRt => 24 | .secureSecInit => 25 | .secureSecWowlan => 26
  | .numOfCpu => 27 | .cscheme => 28 | .apiChangesSet => 29 | .enabledCapabilities => 30
  | .nScanChannels => 31
  | .paging => 32 | .secRtUsniffer => 34 | .sdioAdmaAddr => 35 | .fwVersion => 36
  | .fwDbgDest => 38 | .fwDbgConf => 39 | .fwDbgTrigger => 40
  | .fwGscanCapa => 50 | .fwMemSeg => 51
  | .unknown => 0

theorem IwlUcodeTlvType.ofLe32_toLe32 (type : IwlUcodeTlvType) : .ofLe32 type.toLe32 = type := by
  cases type <;> rfl

theorem IwlUcodeTlvType.toLe32_lt (type : IwlUcodeTlvType) : type.toLe32 < 256 ^ 4 := by
  cases type <;> decide

/-- A TLV to be written, with its padding. -/
structure WireTlv where
  type : IwlUcodeTlvType
  payload : List UInt8
  padding : List UInt8
  length_lt : payload.length < 2 ^ 32
  padded : payload.length + padding.length = lnxAlign payload.length 4

def WireTlv.content (tlv : WireTlv) : TlvContent := ⟨tlv.type, tlv.payload⟩

def WireTlv.bytes (tlv : WireTlv) : List UInt8 :=
  leBytes 4 tlv.type.toLe32 ++ (leBytes 4 tlv.payload.length ++ (tlv.payload ++ tlv.padding))

def tlvBytes (tlvs : List WireTlv) : List UInt8 := tlvs.flatMap WireTlv.bytes

/-- `struct iwl_tlv_ucode_header`, without its first word and its magic. -/
structure TlvUcodeHeader where
  humanReadable : List UInt8
  ver : Nat
  build : Nat
  ignore : Nat
  humanReadable_length : humanReadable.length = 64
  ver_lt : ver < 2 ^ 32
  build_lt : build < 2 ^ 32

def TlvUcodeHeader.bytes (header : TlvUcodeHeader) : List UInt8 :=
  leBytes 4 0 ++ (leBytes 4 tlvUcodeMagic ++ (header.humanReadable ++
    (leBytes 4 header.ver ++ (leBytes 4 header.build ++ leBytes 8 header.ignore))))

/-- The bytes of a whole file. -/
def fileBytes (header : TlvUcodeHeader) (tlvs : List WireTlv) : List UInt8 :=
  header.bytes ++ tlvBytes tlvs

/-- Where the TLVs of a list lie, when the first is at `offset`. -/
def place : Nat → List WireTlv → List Tlv
  | _, [] => []
  | offset, tlv :: rest =>
    ⟨tlv.type, offset + tlvHeaderSize, tlv.payload.length⟩ ::
      place (offset + tlvHeaderSize + lnxAlign tlv.payload.length 4) rest

/-- What a list of TLVs means, from left to right. -/
def interpret (file : Firmware) (tlvs : List Tlv) (st : TlvState) : TlvState :=
  tlvs.foldl (fun st tlv => st.after tlv (file.payload tlv)) st

theorem length_bytes (tlv : WireTlv) :
    tlv.bytes.length = tlvHeaderSize + lnxAlign tlv.payload.length 4 := by
  unfold WireTlv.bytes tlvHeaderSize
  rw [← tlv.padded]
  simp only [List.length_append, length_leBytes]
  omega

theorem length_headerBytes (header : TlvUcodeHeader) : header.bytes.length = tlvUcodeHeaderSize := by
  unfold TlvUcodeHeader.bytes
  simp only [List.length_append, length_leBytes, header.humanReadable_length]
  rfl

/-- A TLV takes bytes. -/
theorem length_le_tlvBytes (tlvs : List WireTlv) : tlvs.length ≤ (tlvBytes tlvs).length := by
  induction tlvs with
  | nil => exact Nat.le_refl 0
  | cons tlv rest ih =>
    have first : (tlvBytes (tlv :: rest)).length = tlv.bytes.length + (tlvBytes rest).length := by
      rw [tlvBytes, List.flatMap_cons, List.length_append]
      rfl
    rw [List.length_cons, first, length_bytes]
    unfold tlvHeaderSize
    omega

/-! ### The parser on written bytes -/

section Written

variable {file : Firmware} {offset : Nat} {tlv : WireTlv} {rest : List WireTlv}

/-- The TLV at an offset where one is written. -/
theorem tlvAt_written (written : file.data.drop offset = tlvBytes (tlv :: rest)) :
    file.tlvAt offset = ⟨tlv.type, offset + tlvHeaderSize, tlv.payload.length⟩ := by
  have typeField : leAt file.data offset 4 = tlv.type.toLe32 := by
    have field := leAt_drop file.data offset 0 4
    rw [Nat.add_zero, written] at field
    rw [← field]
    show leAt (leBytes 4 tlv.type.toLe32 ++ _ ++ tlvBytes rest) 0 4 = _
    rw [List.append_assoc]
    exact leAt_leBytes tlv.type.toLe32_lt _
  have lengthField : leAt file.data (offset + 4) 4 = tlv.payload.length := by
    rw [← leAt_drop, written]
    show leAt (leBytes 4 tlv.type.toLe32 ++ (leBytes 4 tlv.payload.length ++ _) ++ tlvBytes rest) 4 4 = _
    rw [List.append_assoc]
    have past := leAt_append_right (leBytes 4 tlv.type.toLe32)
      (leBytes 4 tlv.payload.length ++ (tlv.payload ++ tlv.padding) ++ tlvBytes rest) 0 4
    rw [length_leBytes, Nat.add_zero] at past
    rw [past, List.append_assoc]
    exact leAt_leBytes tlv.length_lt _
  unfold Firmware.tlvAt
  rw [typeField, lengthField, IwlUcodeTlvType.ofLe32_toLe32]

/-- Its payload. -/
theorem payload_written (written : file.data.drop offset = tlvBytes (tlv :: rest)) :
    file.payload ⟨tlv.type, offset + tlvHeaderSize, tlv.payload.length⟩ = tlv.payload := by
  have after : file.data.drop (offset + tlvHeaderSize) =
      tlv.payload ++ (tlv.padding ++ tlvBytes rest) := by
    rw [← List.drop_drop, written]
    have split : tlvBytes (tlv :: rest) =
        (leBytes 4 tlv.type.toLe32 ++ leBytes 4 tlv.payload.length) ++
          (tlv.payload ++ (tlv.padding ++ tlvBytes rest)) := by
      simp only [tlvBytes, List.flatMap_cons, WireTlv.bytes, List.append_assoc]
    rw [split]
    exact List.drop_left' (by simp [tlvHeaderSize])
  unfold Firmware.payload slice
  dsimp only
  rw [after]
  exact List.take_left' rfl

/-- What is written after it. -/
theorem drop_written (written : file.data.drop offset = tlvBytes (tlv :: rest)) :
    file.data.drop (offset + tlvHeaderSize + lnxAlign tlv.payload.length 4) = tlvBytes rest := by
  rw [Nat.add_assoc, ← length_bytes, ← List.drop_drop, written]
  exact List.drop_left' rfl

/-- A TLV that is written is read, with the counter at what remains after it. -/
theorem nextTlv_written (written : file.data.drop offset = tlvBytes (tlv :: rest)) :
    tlvHeaderSize ≤ file.size - offset ∧
      offset + tlvHeaderSize + lnxAlign tlv.payload.length 4 ≤ file.size ∧
      nextTlv file ⟨offset, file.size - offset⟩ =
        .ok (⟨tlv.type, offset + tlvHeaderSize, tlv.payload.length⟩,
          ⟨offset + tlvHeaderSize + lnxAlign tlv.payload.length 4,
            file.size - (offset + tlvHeaderSize + lnxAlign tlv.payload.length 4)⟩) := by
  have remaining : file.size - offset =
      tlvHeaderSize + lnxAlign tlv.payload.length 4 + (tlvBytes rest).length := by
    have lengths := congrArg List.length written
    rw [List.length_drop, tlvBytes, List.flatMap_cons, List.length_append, length_bytes] at lengths
    exact lengths
  have bound : file.size < 2 ^ 63 := file.size_lt
  have padded := le_lnxAlign_four tlv.payload.length
  unfold tlvHeaderSize at *
  refine ⟨by omega, by omega, ?_⟩
  have exact : Cursor.Exact file ⟨offset, file.size - offset⟩ := by
    unfold Cursor.Exact
    dsimp only
    omega
  rw [nextTlv_exact exact (by unfold tlvHeaderSize; dsimp only; omega)]
  dsimp only
  rw [tlvAt_written written]
  unfold Tlv.next tlvHeaderSize
  dsimp only
  rw [if_neg (by omega), sizeSub_of_le (by omega) (by omega)]
  congr 3
  omega

end Written

/-- **The loop over written TLVs**: it ends at the end of the file, and has done what they mean. -/
theorem run_written {file : Firmware} (rest : List WireTlv) {offset fuel : Nat} (st : TlvState)
    (written : file.data.drop offset = tlvBytes rest) (inside : offset ≤ file.size)
    (wellFormed : ∀ tlv ∈ rest,
      requiredLength tlv.content = true ∧ supportedValue tlv.content = true)
    (enough : rest.length < fuel) :
    run (tlvTurn file) fuel (⟨offset, file.size - offset⟩, st) =
      some (.ok (⟨file.size, 0⟩, interpret file (place offset rest) st)) := by
  induction rest generalizing offset fuel st with
  | nil =>
    obtain ⟨fuel, rfl⟩ := Nat.exists_eq_succ_of_ne_zero (Nat.pos_iff_ne_zero.mp enough)
    have ended : offset = file.size := by
      have none : file.data.length - offset = 0 := by
        rw [← List.length_drop, written]
        rfl
      unfold Firmware.size at inside ⊢
      omega
    subst ended
    refine run_leave ?_ fuel
    unfold tlvTurn
    dsimp only
    rw [Nat.sub_self]
    rfl
  | cons tlv rest ih =>
    obtain ⟨fuel, rfl⟩ := Nat.exists_eq_succ_of_ne_zero (Nat.ne_of_gt (Nat.zero_lt_of_lt enough))
    obtain ⟨header, next, read⟩ := nextTlv_written written
    have payload := payload_written written
    obtain ⟨length, value⟩ := wellFormed tlv List.mem_cons_self
    have content : file.content ⟨tlv.type, offset + tlvHeaderSize, tlv.payload.length⟩ = tlv.content := by
      unfold Firmware.content WireTlv.content
      rw [payload]
    have padded := le_lnxAlign_four tlv.payload.length
    have handled := handleTlv_after st
      (show offset + tlvHeaderSize + tlv.payload.length ≤ file.size by omega)
      (content.symm ▸ length) (content.symm ▸ value)
    rw [run_again (tlvTurn_of_handled header read handled)]
    exact ih _ (drop_written written) next
      (fun later member => wellFormed later (List.mem_cons_of_mem _ member))
      (Nat.lt_of_succ_lt_succ enough)

/-- The contents of the TLVs of a written file are those that were written. -/
theorem contents_written {file : Firmware} (rest : List WireTlv) {offset : Nat}
    (written : file.data.drop offset = tlvBytes rest) :
    (place offset rest).map file.content = rest.map WireTlv.content := by
  induction rest generalizing offset with
  | nil => rfl
  | cons tlv rest ih =>
    rw [place, List.map_cons, List.map_cons, ih (drop_written written)]
    congr 1
    unfold Firmware.content WireTlv.content
    rw [payload_written written]

end IntelWifi.Fw
