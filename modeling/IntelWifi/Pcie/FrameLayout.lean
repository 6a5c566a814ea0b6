/-
**Pages laid out frame by frame.**

The hardware puts each frame at a multiple of 64 bytes, and ends a page that is not full with the marker
`FH_RSCSR_FRAME_INVALID`. What is between a frame and the next, and behind the marker, is anything.

* `rxHandled_laidOut`: the frames of such a page reach the op-mode, in order, each once, with its offset,
  length and bytes.
* `layPage_laidOut`: every list of frames that fits in a page can be laid out.
-/

import IntelWifi.Pcie.RxFrames

namespace IntelWifi.Pcie

open IntelWifi.Bytes

/-- A frame: the word with its length, and as many bytes. -/
structure Frame where
  lenNFlags : Nat
  contents : List UInt8
  word : lenNFlags < 2 ^ 32
  notMarker : lenNFlags ≠ frameInvalid
  length_eq : contents.length = lenNFlags % 2 ^ 14

/-- The bytes of the frame, from its word on. -/
def Frame.bytes (frame : Frame) : List UInt8 := leBytes 4 frame.lenNFlags ++ frame.contents

/-- The room of a frame: its bytes, up to the next multiple of 64. -/
def Frame.room (frame : Frame) : Nat := (frame.bytes.length + (frameAlign - 1)) / frameAlign * frameAlign

/-- From an offset on, the page holds the frames, and then nothing or the end marker. -/
def LaidOut (page : RxPage) : Nat → List Frame → Prop
  | offset, [] => offset = page.maxLen ∨ offset + 4 ≤ page.maxLen ∧ leAt page.data offset 4 = frameInvalid
  | offset, frame :: later =>
    offset + frame.room ≤ page.maxLen ∧ slice page.data offset frame.bytes.length = frame.bytes ∧
      LaidOut page (offset + frame.room) later

/-- A frame where it is: its offset, its length without the status word, and its bytes. -/
structure PlacedFrame where
  offset : Nat
  length : Nat
  bytes : List UInt8
  deriving DecidableEq, Repr

/-- The frames of a list, the first at an offset. -/
def placedFrom : Nat → List Frame → List PlacedFrame
  | _, [] => []
  | offset, frame :: later =>
    ⟨offset, frame.contents.length, frame.bytes⟩ :: placedFrom (offset + frame.room) later

/-- What a handler finds at a packet. -/
def RxPage.placed (page : RxPage) (pkt : RxPacket) : PlacedFrame :=
  ⟨pkt.offset, iwlRxPacketLen pkt, slice page.data pkt.offset (4 + iwlRxPacketLen pkt)⟩

theorem Frame.length_bytes (frame : Frame) : frame.bytes.length = 4 + frame.contents.length := by
  unfold Frame.bytes
  rw [List.length_append, length_leBytes]

theorem Frame.dvd_room (frame : Frame) : frameAlign ∣ frame.room := Nat.dvd_mul_left _ _

theorem Frame.room_pos (frame : Frame) : frameAlign ≤ frame.room := by
  have := frame.length_bytes
  unfold Frame.room frameAlign
  omega

theorem Frame.length_le_room (frame : Frame) : frame.bytes.length ≤ frame.room := by
  unfold Frame.room frameAlign
  omega

theorem RxPage.length_data (page : RxPage) : page.data.length = page.maxLen := page.length_eq

theorem RxPage.dvd_maxLen (page : RxPage) : frameAlign ∣ page.maxLen := by
  unfold RxPage.maxLen pageSize frameAlign
  exact Nat.dvd_mul_right_of_dvd (by decide) _

/-! ### The walk over a laid-out page -/

section Walk

variable {page : RxPage} {offset : Nat} {frame : Frame}

/-- The word of a frame that is there. -/
theorem lenNFlags_eq (fits : offset + frame.room ≤ page.maxLen)
    (bytes : slice page.data offset frame.bytes.length = frame.bytes) :
    (page.packetAt offset).lenNFlags = frame.lenNFlags := by
  have length := frame.length_bytes
  have room := frame.length_le_room
  have size := page.length_data
  calc leAt page.data offset 4
      = leAt (slice page.data offset frame.bytes.length) 0 4 :=
        (leAt_slice (show 0 + 4 ≤ frame.bytes.length by omega) (by omega)).symm
    _ = leAt frame.bytes 0 4 := by rw [bytes]
    _ = frame.lenNFlags := leAt_leBytes frame.word frame.contents

/-- The packet there is the frame. -/
theorem placed_packetAt (fits : offset + frame.room ≤ page.maxLen)
    (bytes : slice page.data offset frame.bytes.length = frame.bytes) :
    page.placed (page.packetAt offset) = ⟨offset, frame.contents.length, frame.bytes⟩ := by
  have length : iwlRxPacketLen (page.packetAt offset) = frame.contents.length := by
    unfold iwlRxPacketLen
    rw [lenNFlags_eq fits bytes, frame.length_eq]
  unfold RxPage.placed
  rw [length, ← frame.length_bytes]
  exact congrArg (PlacedFrame.mk offset frame.contents.length) bytes

/-- The walk goes on with the next frame. -/
theorem frameStride_eq (fits : offset + frame.room ≤ page.maxLen)
    (bytes : slice page.data offset frame.bytes.length = frame.bytes) :
    frameStride (page.packetAt offset) = frame.room := by
  unfold frameStride Frame.room iwlRxPacketLen
  rw [lenNFlags_eq fits bytes, ← frame.length_eq, frame.length_bytes, Nat.add_comm 4]

/-- **The frames found are the frames laid out.** The offsets are multiples of 64, so before the end of
the page there is room for the word of a frame or the marker. -/
theorem framesFrom_laidOut {frames : List Frame} (aligned : frameAlign ∣ offset)
    (laid : LaidOut page offset frames) (fuel : Nat) (enough : page.maxLen - offset < fuel) :
    (framesFrom page fuel offset).map page.placed = placedFrom offset frames := by
  induction frames generalizing offset fuel with
  | nil =>
    obtain ⟨fuel, rfl⟩ : ∃ less, fuel = less + 1 := ⟨fuel - 1, by omega⟩
    have ends : ¬ (offset + minFrame < page.maxLen ∧ (page.packetAt offset).lenNFlags ≠ frameInvalid) := by
      rcases laid with full | ⟨_, marker⟩
      · rw [full]
        unfold minFrame
        omega
      · exact fun both => both.2 marker
    rw [framesFrom, if_neg ends]
    rfl
  | cons frame later ih =>
    obtain ⟨fits, bytes, rest⟩ := laid
    obtain ⟨fuel, rfl⟩ : ∃ less, fuel = less + 1 := ⟨fuel - 1, by omega⟩
    have room := frame.room_pos
    unfold frameAlign at room
    have found : offset + minFrame < page.maxLen ∧ (page.packetAt offset).lenNFlags ≠ frameInvalid := by
      rw [lenNFlags_eq fits bytes]
      exact ⟨by unfold minFrame; omega, frame.notMarker⟩
    rw [framesFrom, if_pos found, List.map_cons, placed_packetAt fits bytes, frameStride_eq fits bytes,
      ih (Nat.dvd_add aligned frame.dvd_room) rest fuel (by omega), placedFrom]

end Walk

/-! ### Who gets the frames -/

/-- The packets the op-mode gets, in order. -/
def toOpmode (log : List Handed) : List RxPacket :=
  log.filterMap fun
    | .opmodeRx pkt => some pkt
    | .hcmdComplete _ => none

/-- The packets `iwl_pcie_hcmd_complete` gets, in order. -/
def toHcmdComplete (log : List Handed) : List RxPacket :=
  log.filterMap fun
    | .opmodeRx _ => none
    | .hcmdComplete pkt => some pkt

/-- Each packet goes to the op-mode, and those that answer a command also to `iwl_pcie_hcmd_complete`. -/
theorem foldl_handOver_eq (noReclaimCmds : List Nat) (stolen : RxPacket → Bool) (pkts : List RxPacket)
    (log : List Handed) :
    let handed := pkts.foldl (fun log pkt => handOver noReclaimCmds stolen pkt log) log
    toOpmode handed = toOpmode log ++ pkts ∧
      toHcmdComplete handed =
        toHcmdComplete log ++ pkts.filter fun pkt => reclaims noReclaimCmds pkt && !stolen pkt := by
  induction pkts generalizing log with
  | nil => simp
  | cons pkt rest ih =>
    obtain ⟨opmode, hcmd⟩ := ih (handOver noReclaimCmds stolen pkt log)
    have one : toOpmode (handOver noReclaimCmds stolen pkt log) = toOpmode log ++ [pkt] ∧
        toHcmdComplete (handOver noReclaimCmds stolen pkt log) = toHcmdComplete log ++
          [pkt].filter fun pkt => reclaims noReclaimCmds pkt && !stolen pkt := by
      unfold handOver toOpmode toHcmdComplete rxqId
      rw [if_pos rfl]
      cases answers : reclaims noReclaimCmds pkt && !stolen pkt with
      | true => simp [answers]
      | false => simp [answers]
    refine ⟨?_, ?_⟩
    · rw [List.foldl_cons, opmode, one.1, List.append_assoc]
      rfl
    · rw [List.foldl_cons, hcmd, one.2, List.append_assoc, ← List.filter_append]
      rfl

/-! ### Laying out a list -/

/-- The frames, each padded with zeros. -/
def layFrames (frames : List Frame) : List UInt8 :=
  frames.flatMap fun frame => frame.bytes ++ List.replicate (frame.room - frame.bytes.length) 0

/-- What the frames take of a page. -/
def roomOf (frames : List Frame) : Nat := (frames.map Frame.room).sum

/-- The page with the frames, the marker where there is room, and zeros. -/
def layPage (order : Nat) (order_lt : order < 20) (frames : List Frame) : RxPage where
  order := order
  order_lt := order_lt
  data := (layFrames frames ++ (leBytes 4 frameInvalid ++
    List.replicate (pageSize * 2 ^ order) 0)).take (pageSize * 2 ^ order)
  length_eq := by
    rw [List.length_take, List.length_append, List.length_append, List.length_replicate]
    omega

theorem length_layFrames (frames : List Frame) : (layFrames frames).length = roomOf frames := by
  unfold layFrames roomOf
  rw [List.length_flatMap]
  refine congrArg List.sum (List.map_congr_left fun frame _ => ?_)
  have := frame.length_le_room
  rw [List.length_append, List.length_replicate]
  omega

theorem dvd_roomOf (frames : List Frame) : frameAlign ∣ roomOf frames := by
  induction frames with
  | nil => exact Nat.dvd_zero _
  | cons frame later ih => exact Nat.dvd_add frame.dvd_room ih

/-- Behind what comes before, a page holds the frames, when the marker follows them or nothing. -/
theorem laidOut_of_data {page : RxPage} (frames : List Frame) {before behind : List UInt8}
    (data : page.data = before ++ layFrames frames ++ behind)
    (ends : behind = [] ∨ 4 ≤ behind.length ∧ leAt behind 0 4 = frameInvalid) :
    LaidOut page before.length frames := by
  have size := page.length_data
  induction frames generalizing before with
  | nil =>
    rw [show layFrames [] = [] from rfl, List.append_nil] at data
    rw [data, List.length_append] at size
    rcases ends with rfl | ⟨word, marker⟩
    · exact .inl size
    · refine .inr ⟨by omega, ?_⟩
      rw [data]
      exact (leAt_append_right before behind 0 4).trans marker
  | cons frame later ih =>
    have padded : (frame.bytes ++ List.replicate (frame.room - frame.bytes.length) (0 : UInt8)).length =
        frame.room := by
      have := frame.length_le_room
      rw [List.length_append, List.length_replicate]
      omega
    have split : page.data = (before ++ (frame.bytes ++
        List.replicate (frame.room - frame.bytes.length) 0)) ++ layFrames later ++ behind := by
      rw [data, List.append_assoc before (_ ++ _) (layFrames later)]
      rfl
    have rest := ih split
    rw [List.length_append, padded] at rest
    refine ⟨?_, ?_, rest⟩
    · rw [split, List.length_append, List.length_append, List.length_append, padded] at size
      omega
    · unfold slice
      rw [split, List.append_assoc, List.append_assoc, List.drop_left, List.append_assoc, List.take_left]

/-- **Every list of frames that fits in a page can be laid out.** -/
theorem layPage_laidOut (order : Nat) (order_lt : order < 20) (frames : List Frame)
    (fits : roomOf frames ≤ pageSize * 2 ^ order) : LaidOut (layPage order order_lt frames) 0 frames := by
  have length := length_layFrames frames
  -- Both are multiples of 64, so nothing is left or there is room for the marker.
  have left : pageSize * 2 ^ order - roomOf frames = 0 ∨ 4 ≤ pageSize * 2 ^ order - roomOf frames := by
    have page : frameAlign ∣ pageSize * 2 ^ order := (layPage order order_lt frames).dvd_maxLen
    have := Nat.dvd_sub page (dvd_roomOf frames)
    unfold frameAlign at this
    omega
  have data : (layPage order order_lt frames).data = [] ++ layFrames frames ++
      (leBytes 4 frameInvalid ++ List.replicate (pageSize * 2 ^ order) 0).take
        (pageSize * 2 ^ order - roomOf frames) := by
    unfold layPage
    dsimp only
    rw [List.take_append, length, List.take_of_length_le (by omega), List.nil_append]
  refine laidOut_of_data frames data ?_
  rcases left with none | some
  · exact .inl (by rw [none, List.take_zero])
  · refine .inr ⟨?_, ?_⟩
    · rw [List.length_take, List.length_append, length_leBytes]
      omega
    · rw [List.take_append, length_leBytes, List.take_of_length_le (by rw [length_leBytes]; exact some)]
      exact leAt_leBytes (by decide) _

/-! ### Delivery -/

/-- **Page framing**: a page laid out frame by frame is delivered as these frames, in order, each once to
the op-mode, with its offset, length and bytes; those that answer a command also go to
`iwl_pcie_hcmd_complete`, in the same order. -/
theorem rxHandled_laidOut {page : RxPage} {frames : List Frame} (laid : LaidOut page 0 frames)
    (noReclaimCmds : List Nat) (stolen : RxPacket → Bool) :
    ∃ log, rxHandled page noReclaimCmds stolen = some log ∧
      (toOpmode log).map page.placed = placedFrom 0 frames ∧
      toHcmdComplete log = (toOpmode log).filter fun pkt => reclaims noReclaimCmds pkt && !stolen pkt := by
  obtain ⟨opmode, hcmd⟩ := foldl_handOver_eq noReclaimCmds stolen (Pcie.frames page) []
  refine ⟨_, rxWalk_eq page _ [], ?_, ?_⟩
  · rw [opmode]
    exact framesFrom_laidOut (Nat.dvd_zero _) laid _ (by unfold rxFuel; omega)
  · rw [hcmd, opmode]
    rfl

/-- A frame of equal bytes. -/
def plainFrame (length : Nat) (length_lt : length < 2 ^ 14) (byte : UInt8) : Frame where
  lenNFlags := length
  contents := List.replicate length byte
  word := Nat.lt_trans length_lt (by decide)
  notMarker := Nat.ne_of_lt (Nat.lt_trans length_lt (by decide))
  length_eq := by rw [List.length_replicate, Nat.mod_eq_of_lt length_lt]

theorem room_plainFrame (length : Nat) (length_lt : length < 2 ^ 14) (byte : UInt8) :
    (plainFrame length length_lt byte).room = (4 + length + (frameAlign - 1)) / frameAlign * frameAlign := by
  have bytes : (plainFrame length length_lt byte).bytes.length = 4 + length :=
    (plainFrame length length_lt byte).length_bytes.trans (congrArg (4 + ·) List.length_replicate)
  unfold Frame.room
  rw [bytes]

/-- A response of 104 bytes, a notification of 64, and one of 1504. -/
def threeFrames : List Frame :=
  [plainFrame 100 (by decide) 7, plainFrame 60 (by decide) 0x80, plainFrame 1500 (by decide) 0x81]

theorem roomOf_threeFrames : roomOf threeFrames = 1728 := by
  unfold roomOf threeFrames
  rw [List.map_cons, List.map_cons, List.map_singleton, room_plainFrame, room_plainFrame, room_plainFrame]
  rfl

/-- Three frames, the first and the last of which do not end at a multiple of 64, and the marker. -/
theorem threeFrames_delivered :
    roomOf threeFrames + 4 ≤ (layPage 0 (by decide) threeFrames).maxLen ∧
      ∃ log, rxHandled (layPage 0 (by decide) threeFrames) [] (fun _ => false) = some log ∧
        (toOpmode log).map (layPage 0 (by decide) threeFrames).placed = placedFrom 0 threeFrames ∧
        toHcmdComplete log = (toOpmode log).filter fun pkt => reclaims [] pkt && !false := by
  have room := roomOf_threeFrames
  have maxLen : (layPage 0 (by decide) threeFrames).maxLen = 4096 := rfl
  have laid := layPage_laidOut 0 (by decide) threeFrames (by rw [room]; decide)
  refine ⟨by omega, rxHandled_laidOut laid [] fun _ => false⟩

end IntelWifi.Pcie
