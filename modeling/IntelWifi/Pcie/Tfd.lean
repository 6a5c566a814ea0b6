/-
**Transmit frame descriptors.**

A TFD lists up to 20 transmit buffers (TBs), each with 36 bits of address and 12 bits of length. The
driver writes the descriptor of `write_ptr`, but looks descriptors up again by slot
(`iwl_pcie_get_tfd`).

* `buildTfd_append`: a further TB is what the device reads after the earlier ones.
* `tfdUnmap_entries`, `tfdUnmap_tfds`: `iwl_pcie_tfd_unmap` touches one slot's buffers and one
  descriptor.
-/

import IntelWifi.Pcie.Queue

namespace IntelWifi.Pcie

open IntelWifi.Memory

/-- `iwl_pcie_tfd_get_num_tbs`. -/
def iwlPcieTfdGetNumTbs (tfd : IwlTfd) : Nat := tfd.numTbs % 2 ^ 5

/-- `iwl_get_dma_hi_addr`. -/
def iwlGetDmaHiAddr (addr : Nat) : Nat := addr / 2 ^ 32 % 2 ^ 4

/-- `iwl_pcie_tfd_set_tb`. -/
def iwlPcieTfdSetTb (tfd : IwlTfd) (idx addr len : Nat) : IwlTfd where
  numTbs := idx + 1
  tbs := tfd.tbs.set idx ⟨addr % 2 ^ 32, (len <<< 4) % 2 ^ 16 ||| iwlGetDmaHiAddr addr⟩

/-- `iwl_pcie_tfd_tb_get_addr`. -/
def iwlPcieTfdTbGetAddr (tb : IwlTfdTb) : Nat := (tb.hiNLen % 2 ^ 4) <<< 32 ||| tb.lo

/-- `TB_HI_N_LEN_LEN_MSK`. -/
def iwlPcieTfdTbGetLen (tb : IwlTfdTb) : Nat := tb.hiNLen >>> 4

/-- `IWL_TX_DMA_MASK`. -/
def iwlTxDmaMask : Nat := 2 ^ 36 - 1

/-- `iwl_pcie_txq_build_tfd`. Its callers do not look at the result it returns. -/
def iwlPcieTxqBuildTfd (txq : IwlTxq) (addr len : Nat) (reset : Bool) : IwlTxq :=
  let tfd := if reset then .zero else txq.tfds txq.writePtr
  let numTbs := iwlPcieTfdGetNumTbs tfd
  if iwlNumOfTbs ≤ numTbs then txq.setTfd txq.writePtr tfd
  else if iwlTxDmaMask < addr then txq.setTfd txq.writePtr tfd
  else txq.setTfd txq.writePtr (iwlPcieTfdSetTb tfd numTbs addr len)

/-- `iwl_pcie_get_tfd` looks a descriptor up by the slot of the index. -/
def iwlPcieGetTfd (index : RingIndex) : RingIndex :=
  (iwlPcieGetCmdIndex index).castLE (by decide)

/-- The entry after its DMA buffers are freed. -/
def IwlPcieTxqEntry.unmapped (entry : IwlPcieTxqEntry) : IwlPcieTxqEntry :=
  { entry with cmdMeta := { entry.cmdMeta with dma := entry.cmdMeta.dma.map fun _ => none } }

/-- `iwl_pcie_tfd_unmap`, on the slot of `index`. -/
def iwlPcieTfdUnmap (txq : IwlTxq) (index : RingIndex) : IwlTxq :=
  let tfd := iwlPcieGetTfd index
  let slot := iwlPcieGetCmdIndex index
  if iwlNumOfTbs ≤ iwlPcieTfdGetNumTbs (txq.tfds tfd) then txq
  else
    (txq.setEntry slot (txq.entries slot).unmapped).setTfd tfd { txq.tfds tfd with numTbs := 0 }

/-- `iwl_pcie_txq_free_tfd`. A command has no `skb`. -/
def iwlPcieTxqFreeTfd (txq : IwlTxq) : IwlTxq := iwlPcieTfdUnmap txq txq.readPtr

/-! ### What the device reads -/

/-- Address and length of a TB. -/
def tbRange (tb : IwlTfdTb) : Nat × Nat := (iwlPcieTfdTbGetAddr tb, iwlPcieTfdTbGetLen tb)

/-- The ranges a descriptor lists. -/
def tfdRanges (tfd : IwlTfd) : List (Nat × Nat) :=
  (tfd.tbs.take (iwlPcieTfdGetNumTbs tfd)).map tbRange

/-- The bytes at a list of ranges. -/
def gather (mem : Ram) (ranges : List (Nat × Nat)) : List UInt8 :=
  ranges.flatMap fun range => load mem range.1 range.2

/-- The command the device sees. -/
def tfdBytes (mem : Ram) (tfd : IwlTfd) : List UInt8 := gather mem (tfdRanges tfd)

theorem gather_append (mem : Ram) (front back : List (Nat × Nat)) :
    gather mem (front ++ back) = gather mem front ++ gather mem back := List.flatMap_append

theorem gather_singleton (mem : Ram) (addr n : Nat) : gather mem [(addr, n)] = load mem addr n :=
  List.flatMap_singleton ..

/-- A TB holds its address and its length. -/
theorem tbRange_mk {addr len : Nat} (inside : addr < 2 ^ 36) (short : len < 2 ^ 12) :
    tbRange ⟨addr % 2 ^ 32, (len <<< 4) % 2 ^ 16 ||| iwlGetDmaHiAddr addr⟩ = (addr, len) := by
  have high : iwlGetDmaHiAddr addr < 2 ^ 4 := Nat.mod_lt _ (by decide)
  have word : (len <<< 4) % 2 ^ 16 ||| iwlGetDmaHiAddr addr = 16 * len + iwlGetDmaHiAddr addr := by
    rw [Nat.mod_eq_of_lt (by rw [Nat.shiftLeft_eq]; omega), ← Nat.shiftLeft_add_eq_or_of_lt high,
      Nat.shiftLeft_eq]
    omega
  have low : addr % 2 ^ 32 < 2 ^ 32 := Nat.mod_lt _ (by decide)
  rw [word]
  unfold tbRange iwlPcieTfdTbGetAddr iwlPcieTfdTbGetLen
  dsimp only
  rw [← Nat.shiftLeft_add_eq_or_of_lt low, Nat.shiftLeft_eq, Nat.shiftRight_eq_div_pow]
  unfold iwlGetDmaHiAddr at *
  refine Prod.ext ?_ ?_ <;> dsimp only <;> omega

/-- The descriptor lists these ranges and has room for the other TBs. -/
structure Describes (tfd : IwlTfd) (ranges : List (Nat × Nat)) : Prop where
  slots : tfd.tbs.length = iwlNumOfTbs
  count : tfd.numTbs = ranges.length
  room : ranges.length ≤ iwlNumOfTbs
  listed : (tfd.tbs.take ranges.length).map tbRange = ranges

theorem Describes.zero : Describes .zero [] := ⟨rfl, rfl, Nat.zero_le _, rfl⟩

theorem Describes.numTbs {tfd : IwlTfd} {ranges : List (Nat × Nat)} (describes : Describes tfd ranges) :
    iwlPcieTfdGetNumTbs tfd = ranges.length := by
  have := describes.room
  unfold iwlPcieTfdGetNumTbs iwlNumOfTbs at *
  rw [describes.count]
  omega

theorem Describes.ranges_eq {tfd : IwlTfd} {ranges : List (Nat × Nat)}
    (describes : Describes tfd ranges) : tfdRanges tfd = ranges := by
  rw [tfdRanges, describes.numTbs, describes.listed]

theorem Describes.setTb {tfd : IwlTfd} {ranges : List (Nat × Nat)} {addr len : Nat}
    (describes : Describes tfd ranges) (room : ranges.length < iwlNumOfTbs)
    (inside : addr < 2 ^ 36) (short : len < 2 ^ 12) :
    Describes (iwlPcieTfdSetTb tfd ranges.length addr len) (ranges ++ [(addr, len)]) := by
  have index : ranges.length < tfd.tbs.length := describes.slots ▸ room
  refine ⟨?_, ?_, ?_, ?_⟩
  · rw [iwlPcieTfdSetTb, List.length_set, describes.slots]
  · rw [iwlPcieTfdSetTb, List.length_append, List.length_singleton]
  · rw [List.length_append, List.length_singleton]
    exact room
  · rw [iwlPcieTfdSetTb, List.length_append, List.length_singleton, List.take_add_one,
      List.map_append, List.take_set_of_le (Nat.le_refl _), describes.listed,
      List.getElem?_set_self index, Option.toList_some, List.map_singleton, tbRange_mk inside short]

section BuildTfd

variable {txq : IwlTxq} {addr len : Nat}

/-- Only the descriptor of `write_ptr` changes. -/
theorem buildTfd_eq (txq : IwlTxq) (addr len : Nat) (reset : Bool) :
    ∃ tfd, iwlPcieTxqBuildTfd txq addr len reset = txq.setTfd txq.writePtr tfd := by
  unfold iwlPcieTxqBuildTfd
  dsimp only
  generalize (if reset = true then IwlTfd.zero else txq.tfds txq.writePtr) = tfd
  split
  · exact ⟨_, rfl⟩
  · split <;> exact ⟨_, rfl⟩

/-- **The TB is appended** to what the descriptor of `write_ptr` lists. -/
theorem buildTfd_append {ranges : List (Nat × Nat)}
    (describes : Describes (txq.tfds txq.writePtr) ranges) (room : ranges.length < iwlNumOfTbs)
    (inside : addr < 2 ^ 36) (short : len < 2 ^ 12) :
    ∃ tfd, iwlPcieTxqBuildTfd txq addr len false = txq.setTfd txq.writePtr tfd ∧
      Describes tfd (ranges ++ [(addr, len)]) := by
  refine ⟨_, ?_, describes.setTb room inside short⟩
  have count := describes.numTbs
  unfold iwlPcieTxqBuildTfd iwlTxDmaMask
  simp only [Bool.false_eq_true, if_false]
  rw [if_neg (by omega), if_neg (by omega), count]

/-- The first TB starts the descriptor anew. -/
theorem buildTfd_reset (txq : IwlTxq) (inside : addr < 2 ^ 36) (short : len < 2 ^ 12) :
    ∃ tfd, iwlPcieTxqBuildTfd txq addr len true = txq.setTfd txq.writePtr tfd ∧
      Describes tfd [(addr, len)] := by
  refine ⟨_, ?_, Describes.zero.setTb (by decide) inside short⟩
  have count := Describes.zero.numTbs
  unfold iwlPcieTxqBuildTfd iwlTxDmaMask
  simp only [if_true]
  rw [if_neg (by rw [count]; decide), if_neg (by omega), count]

end BuildTfd

/-! ### What unmapping touches -/

section Unmap

variable (txq : IwlTxq) (index : RingIndex)

@[simp] theorem tfdUnmap_writePtr : (iwlPcieTfdUnmap txq index).writePtr = txq.writePtr := by
  unfold iwlPcieTfdUnmap
  dsimp only
  split <;> rfl

@[simp] theorem tfdUnmap_readPtr : (iwlPcieTfdUnmap txq index).readPtr = txq.readPtr := by
  unfold iwlPcieTfdUnmap
  dsimp only
  split <;> rfl

/-- **Only the slot of the index** can lose its buffers. -/
theorem tfdUnmap_entries (slot : Slot) :
    (iwlPcieTfdUnmap txq index).entries slot = txq.entries slot ∨
      slot = iwlPcieGetCmdIndex index ∧
        (iwlPcieTfdUnmap txq index).entries slot = (txq.entries slot).unmapped := by
  unfold iwlPcieTfdUnmap
  dsimp only
  split
  · exact .inl rfl
  · by_cases same : slot = iwlPcieGetCmdIndex index
    · subst same
      exact .inr ⟨rfl, by rw [setTfd_entries, setEntry_same]⟩
    · exact .inl (by rw [setTfd_entries, setEntry_other _ _ _ same])

/-- **Only the descriptor of that slot** can be emptied. -/
theorem tfdUnmap_tfds {other : RingIndex} (differ : other ≠ iwlPcieGetTfd index) :
    (iwlPcieTfdUnmap txq index).tfds other = txq.tfds other := by
  unfold iwlPcieTfdUnmap
  dsimp only
  split
  · rfl
  · rw [setTfd_other _ _ _ differ, setEntry_tfds]

end Unmap

end IntelWifi.Pcie
