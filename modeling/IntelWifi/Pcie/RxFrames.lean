/-
**The frames of a receive page.**

`iwl_pcie_rx_handle_rb` walks a page frame by frame. A frame is a word with a 14-bit length, a
command header and the payload; the next one starts at the next multiple of 64 bytes. The walk ends
at a word that is `FH_RSCSR_FRAME_INVALID`, or when less than a header is left. The length itself is
not compared with the page.

* `rxWalk_eq`: the loop ends, and does its body once for each frame of the page, in order.
* `frames_inside_iff`: all frames are inside the page exactly when their aligned sizes add up to at
  most the page. Only the last one can be outside.
* `handedInside_iff`: the same for the packets handed to the op-mode and to `hcmd_complete`.
-/

import IntelWifi.Lib.Bytes
import IntelWifi.Lib.Loop

namespace IntelWifi.Pcie

open IntelWifi.Bytes IntelWifi.Loop

/-- `PAGE_SIZE`. -/
def pageSize : Nat := 4096

/-- A receive page: `PAGE_SIZE << rx_page_order` bytes, which fits an `unsigned int`. -/
structure RxPage where
  order : Nat
  order_lt : order < 20
  data : List UInt8
  length_eq : data.length = pageSize * 2 ^ order

/-- `max_len`. -/
def RxPage.maxLen (page : RxPage) : Nat := pageSize * 2 ^ page.order

/-- `FH_RSCSR_FRAME_INVALID`. -/
def frameInvalid : Nat := 0x55550000

/-- `FH_RSCSR_FRAME_ALIGN`. -/
def frameAlign : Nat := 0x40

/-- `SEQ_RX_FRAME`. -/
def seqRxFrame : Nat := 0x8000

/-- `struct iwl_rx_packet` at an offset of the page, without its payload. -/
structure RxPacket where
  offset : Nat
  lenNFlags : Nat
  cmd : Nat
  groupId : Nat
  sequence : Nat
  deriving DecidableEq, Repr

/-- The packet at an offset. -/
def RxPage.packetAt (page : RxPage) (offset : Nat) : RxPacket where
  offset := offset
  lenNFlags := leAt page.data offset 4
  cmd := byteAt page.data (offset + 4)
  groupId := byteAt page.data (offset + 5)
  sequence := leAt page.data (offset + 6) 2

/-- `iwl_rx_packet_len`: `len_n_flags & FH_RSCSR_FRAME_SIZE_MSK`. -/
def iwlRxPacketLen (pkt : RxPacket) : Nat := pkt.lenNFlags % 2 ^ 14

/-- `LNX_ALIGN(len, FH_RSCSR_FRAME_ALIGN)`, where `len` counts the status word. -/
def frameStride (pkt : RxPacket) : Nat :=
  (iwlRxPacketLen pkt + 4 + (frameAlign - 1)) / frameAlign * frameAlign

/-- `sizeof(u32) + sizeof(struct iwl_cmd_header)`. -/
def minFrame : Nat := 8

/-- One turn of the loop over frames. `body` is what is done with a packet. -/
def rxTurn {State : Type} (page : RxPage) (body : RxPacket → State → State) :
    Nat × State → Turn (Nat × State) State
  | (offset, st) =>
    if offset + minFrame < page.maxLen then
      let pkt := page.packetAt offset
      if pkt.lenNFlags = frameInvalid then .leave st
      else .again (offset + frameStride pkt, body pkt st)
    else .leave st

/-- Every frame takes at least 64 bytes. -/
def rxFuel (page : RxPage) : Nat := page.maxLen + 1

/-- The loop of `iwl_pcie_rx_handle_rb`. -/
def rxWalk {State : Type} (page : RxPage) (body : RxPacket → State → State) (st : State) :
    Option State :=
  run (rxTurn page body) (rxFuel page) (0, st)

/-! ### The frames of a page -/

/-- The frames from an offset on. -/
def framesFrom (page : RxPage) : Nat → Nat → List RxPacket
  | 0, _ => []
  | fuel + 1, offset =>
    if offset + minFrame < page.maxLen ∧ (page.packetAt offset).lenNFlags ≠ frameInvalid then
      page.packetAt offset :: framesFrom page fuel (offset + frameStride (page.packetAt offset))
    else []

/-- The frames of a page, up to its end marker or its end. -/
def frames (page : RxPage) : List RxPacket := framesFrom page (rxFuel page) 0

/-- The bytes the frames take, each with its padding. -/
def framesSize (pkts : List RxPacket) : Nat := (pkts.map frameStride).sum

/-- The packet lies inside the page. -/
def PacketInside (page : RxPage) (pkt : RxPacket) : Prop :=
  pkt.offset + 4 + iwlRxPacketLen pkt ≤ page.maxLen

theorem frameStride_pos (pkt : RxPacket) : frameAlign ≤ frameStride pkt := by
  unfold frameStride frameAlign
  omega

theorem le_frameStride (pkt : RxPacket) : iwlRxPacketLen pkt + 4 ≤ frameStride pkt := by
  unfold frameStride frameAlign
  omega

/-- The padding of a frame ends at the next multiple of 64, so at the end of the page at most. -/
theorem frame_padding {page : RxPage} {offset : Nat} (aligned : frameAlign ∣ offset)
    (inside : PacketInside page (page.packetAt offset)) :
    offset + frameStride (page.packetAt offset) ≤ page.maxLen := by
  have pageAligned : frameAlign ∣ page.maxLen := by
    unfold RxPage.maxLen pageSize frameAlign
    exact Nat.dvd_mul_right_of_dvd (by decide) _
  obtain ⟨k, hk⟩ := aligned
  obtain ⟨n, hn⟩ := pageAligned
  unfold PacketInside at inside
  have start : (page.packetAt offset).offset = offset := rfl
  unfold frameStride frameAlign at *
  omega

/-- The loop from a head, with enough fuel: the body is done for each frame, in order. -/
theorem run_rxTurn {State : Type} (page : RxPage) (body : RxPacket → State → State)
    (fuel offset : Nat) (st : State) (enough : page.maxLen - offset < fuel) :
    run (rxTurn page body) fuel (offset, st) =
      some ((framesFrom page fuel offset).foldl (fun st pkt => body pkt st) st) := by
  induction fuel generalizing offset st with
  | zero => exact absurd enough (Nat.not_lt_zero _)
  | succ fuel ih =>
    rw [framesFrom]
    by_cases frame : offset + minFrame < page.maxLen ∧
        (page.packetAt offset).lenNFlags ≠ frameInvalid
    · have turn : rxTurn page body (offset, st) =
          .again (offset + frameStride (page.packetAt offset), body (page.packetAt offset) st) := by
        unfold rxTurn
        dsimp only
        rw [if_pos frame.1, if_neg frame.2]
      have moved := frameStride_pos (page.packetAt offset)
      unfold minFrame at frame
      unfold frameAlign at moved
      rw [if_pos (by unfold minFrame; exact frame), run_again turn, ih _ _ (by omega)]
      rfl
    · have turn : rxTurn page body (offset, st) = .leave st := by
        unfold rxTurn
        dsimp only
        by_cases room : offset + minFrame < page.maxLen
        · rw [if_pos room, if_pos (not_not.mp fun invalid => frame ⟨room, invalid⟩)]
        · rw [if_neg room]
      rw [if_neg frame, run_leave turn]
      rfl

/-- **The loop ends, and handles each frame of the page once and in order.** -/
theorem rxWalk_eq {State : Type} (page : RxPage) (body : RxPacket → State → State) (st : State) :
    rxWalk page body st = some ((frames page).foldl (fun st pkt => body pkt st) st) :=
  run_rxTurn page body (rxFuel page) 0 st (by unfold rxFuel; omega)

/-- From an aligned offset inside the page, only the last frame can be outside. -/
theorem framesFrom_inside_iff (page : RxPage) (fuel offset : Nat) (aligned : frameAlign ∣ offset)
    (start : offset ≤ page.maxLen) :
    (∀ pkt ∈ framesFrom page fuel offset, PacketInside page pkt) ↔
      offset + framesSize (framesFrom page fuel offset) ≤ page.maxLen := by
  induction fuel generalizing offset with
  | zero => simpa [framesFrom, framesSize] using start
  | succ fuel ih =>
    rw [framesFrom]
    split
    · have size (rest : List RxPacket) : framesSize (page.packetAt offset :: rest) =
          frameStride (page.packetAt offset) + framesSize rest := by
        rw [framesSize, List.map_cons, List.sum_cons]
        rfl
      have next : frameAlign ∣ offset + frameStride (page.packetAt offset) :=
        Nat.dvd_add aligned (Nat.dvd_mul_left _ _)
      rw [size, List.forall_mem_cons]
      constructor
      · rintro ⟨first, later⟩
        have := (ih _ next (frame_padding aligned first)).mp later
        omega
      · intro fits
        have first : PacketInside page (page.packetAt offset) := by
          have stride := le_frameStride (page.packetAt offset)
          show offset + 4 + _ ≤ page.maxLen
          omega
        exact ⟨first, (ih _ next (by omega)).mpr (by omega)⟩
    · simpa [framesSize] using start

/-- **All frames are inside the page** exactly when their padded sizes fit in it. -/
theorem frames_inside_iff (page : RxPage) :
    (∀ pkt ∈ frames page, PacketInside page pkt) ↔ framesSize (frames page) ≤ page.maxLen := by
  have := framesFrom_inside_iff page (rxFuel page) 0 (Nat.dvd_zero _) (Nat.zero_le _)
  rwa [Nat.zero_add] at this

/-! ### Who gets a packet -/

/-- `rxq->id`: the kext sets up one receive queue. -/
def rxqId : Nat := 0

/-- The packet may answer a command of the driver: `SEQ_RX_FRAME` is clear, and it is not one of the
notifications listed in `no_reclaim_cmds`. -/
def reclaims (noReclaimCmds : List Nat) (pkt : RxPacket) : Bool :=
  pkt.sequence &&& seqRxFrame == 0 && !(pkt.groupId == 0 && noReclaimCmds.contains pkt.cmd)

/-- A packet is given away. -/
inductive Handed where
  | opmodeRx (pkt : RxPacket)
  | hcmdComplete (pkt : RxPacket)
  deriving DecidableEq

def Handed.packet : Handed → RxPacket
  | .opmodeRx pkt => pkt
  | .hcmdComplete pkt => pkt

/-- Who gets one packet; `stolen` says whether a handler of the op-mode takes its page. -/
def handOver (noReclaimCmds : List Nat) (stolen : RxPacket → Bool) (pkt : RxPacket)
    (log : List Handed) : List Handed :=
  log ++ (if rxqId = 0 then [.opmodeRx pkt] else []) ++
    (if reclaims noReclaimCmds pkt && !stolen pkt then [.hcmdComplete pkt] else [])

/-- The packets of a page, as `iwl_pcie_rx_handle_rb` gives them away. -/
def rxHandled (page : RxPage) (noReclaimCmds : List Nat) (stolen : RxPacket → Bool) :
    Option (List Handed) :=
  rxWalk page (handOver noReclaimCmds stolen) []

/-- The packets given away are the frames, each to the op-mode at least. -/
theorem foldl_handOver (noReclaimCmds : List Nat) (stolen : RxPacket → Bool)
    (pkts : List RxPacket) (log : List Handed) (Good : RxPacket → Prop) :
    (∀ handed ∈ pkts.foldl (fun log pkt => handOver noReclaimCmds stolen pkt log) log,
      Good handed.packet) ↔
      (∀ handed ∈ log, Good handed.packet) ∧ ∀ pkt ∈ pkts, Good pkt := by
  induction pkts generalizing log with
  | nil => simp
  | cons pkt rest ih =>
    rw [List.foldl_cons, ih, List.forall_mem_cons]
    have here : (∀ handed ∈ handOver noReclaimCmds stolen pkt log, Good handed.packet) ↔
        (∀ handed ∈ log, Good handed.packet) ∧ Good pkt := by
      unfold handOver rxqId
      rw [if_pos rfl, List.forall_mem_append, List.forall_mem_append, List.forall_mem_singleton]
      constructor
      · exact fun given => given.1
      · refine fun given => ⟨given, fun handed member => ?_⟩
        split at member
        · rw [List.mem_singleton.mp member]
          exact given.2
        · cases member
    rw [here, and_assoc]

/-- **What is handed over is inside the page** exactly when the padded frames fit in it. The walk
ends on every page. -/
theorem handedInside_iff (page : RxPage) (noReclaimCmds : List Nat) (stolen : RxPacket → Bool) :
    ∃ log, rxHandled page noReclaimCmds stolen = some log ∧
      ((∀ handed ∈ log, PacketInside page handed.packet) ↔
        framesSize (frames page) ≤ page.maxLen) := by
  refine ⟨_, rxWalk_eq page _ [], ?_⟩
  rw [foldl_handOver, ← frames_inside_iff]
  exact ⟨And.right, fun inside => ⟨fun _ none => absurd none List.not_mem_nil, inside⟩⟩

/-- A page of 4096 bytes whose first frame announces 16383. -/
def overlongPage : RxPage where
  order := 0
  order_lt := by decide
  data := [0xff, 0x3f, 0, 0] ++ List.replicate 4092 0
  length_eq := by
    rw [List.length_append, List.length_replicate]
    rfl

/-- **A frame longer than its page** is handed to the op-mode and to `hcmd_complete`. -/
theorem overlongPage_handed :
    rxHandled overlongPage [] (fun _ => false) =
        some [.opmodeRx ⟨0, 0x3fff, 0, 0, 0⟩, .hcmdComplete ⟨0, 0x3fff, 0, 0, 0⟩] ∧
      ¬ PacketInside overlongPage ⟨0, 0x3fff, 0, 0, 0⟩ := by
  refine ⟨rfl, ?_⟩
  unfold PacketInside
  decide

end IntelWifi.Pcie
