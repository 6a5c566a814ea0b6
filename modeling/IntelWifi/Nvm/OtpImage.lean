/-
**The image in the OTP.**

`iwl_find_otp_image` follows the links of the OTP's blocks: a block begins with the word that leads to the next
one, and the image is in the block before the last. The first link is read twice, once to see whether the OTP is
empty. The register has fourteen bits for a word's address, so that the word at a byte address is the one that
`EepromDevice.answer` gives for it.

* `findOtpImage_ends`: a walk ends, on cycles too, and with what it should.
* `findOtpImage_eq`: it is the walk of `iwlFindOtpImage`.
-/

import IntelWifi.Nvm.ReadEeprom

namespace IntelWifi.Nvm

open Loop

/-! ### The walk -/

/-- What a call of `iwl_find_otp_image` has done. -/
structure OtpImage where
  ret : Ret
  /-- `*validblockaddr`. -/
  validblockaddr : Nat
  /-- How many words it read. -/
  reads : Nat
  deriving DecidableEq

/-- The variables of the loop, without `valid_addr`, which each turn sets before it is used. -/
structure LinkWalk where
  /-- `u16`. -/
  nextLinkAddr : Nat
  linkValue : UInt16
  usedblocks : Nat
  reads : Nat

/-- A turn of the loop over the links. -/
def linkTurn (dev : EepromDevice) (maxLlItems validblockaddr : Nat) (st : LinkWalk) : Turn LinkWalk OtpImage :=
  let validAddr := st.nextLinkAddr
  let nextLinkAddr := st.linkValue.toNat * 2 % 65536
  match iwlReadOtpWord dev st.reads nextLinkAddr with
  | .error _ => .leave ⟨.error .inval, validblockaddr, st.reads + 1⟩
  | .ok linkValue =>
    if linkValue = 0 then .leave ⟨.ok 0, (validAddr + 2) % 65536, st.reads + 1⟩
    else if st.usedblocks + 1 ≤ maxLlItems then .again ⟨nextLinkAddr, linkValue, st.usedblocks + 1, st.reads + 1⟩
    -- no valid blocks
    else .leave ⟨.error .inval, validblockaddr, st.reads + 1⟩

/-- `iwl_find_otp_image`, with at most `fuel` turns of its loop. -/
def findOtpImage (fuel : Nat) (dev : EepromDevice) (maxLlItems validblockaddr : Nat) : Option OtpImage :=
  if iwlIsOtpEmpty dev then some ⟨.error .inval, validblockaddr, 1⟩
  else run (linkTurn dev maxLlItems validblockaddr) fuel ⟨0, 0, 0, 1⟩

/-! ### What it should do -/

/-- The link word at an address. -/
def EepromDevice.link (dev : EepromDevice) (addr : Nat) : UInt16 := dev.answer addr

/-- The address of the `j`-th block. -/
def EepromDevice.block (dev : EepromDevice) : Nat → Nat
  | 0 => 0
  | j + 1 => 2 * (dev.link (dev.block j)).toNat % 65536

/-- The `j`-th block is the first one, after block 0, that leads to no other. -/
structure EepromDevice.EndsAt (dev : EepromDevice) (j : Nat) : Prop where
  one_le : 1 ≤ j
  ends : dev.link (dev.block j) = 0
  first : ∀ i, 1 ≤ i → i < j → dev.link (dev.block i) ≠ 0

/-- **What `iwl_find_otp_image` should do.** -/
structure OtpImage.Right (dev : EepromDevice) (maxLlItems validblockaddr : Nat) (found : OtpImage) : Prop where
  reads : found.reads ≤ maxLlItems + 2
  finds : (∀ n < found.reads, dev.fails true n = false) →
    (found.ret = .ok 0 ↔ dev.link 0 ≠ 0 ∧ ∃ j, 1 ≤ j ∧ j ≤ maxLlItems ∧ dev.link (dev.block j) = 0)
  address : found.ret = .ok 0 → ∀ j, dev.EndsAt j → found.validblockaddr = (dev.block (j - 1) + 2) % 65536
  failed : (∃ n < found.reads, dev.fails true n = true) → found.ret ≠ .ok 0
  otherwise : found.ret ≠ .ok 0 → found.ret = .error .inval ∧ found.validblockaddr = validblockaddr

variable {dev : EepromDevice} {maxLlItems validblockaddr : Nat} {st : LinkWalk} {found : OtpImage}

/-! ### Reading a link -/

theorem readOtpWord_ok {n : Nat} (ok : dev.fails true n = false) (addr : Nat) :
    iwlReadOtpWord dev n addr = .ok (dev.link addr) := readWord_ok ok addr

theorem readOtpWord_fails {n : Nat} (fails : dev.fails true n = true) (addr : Nat) :
    ∃ e, iwlReadOtpWord dev n addr = .error e := readWord_fails fails addr

/-- An OTP is taken for empty when its first read fails, or its first link is 0. -/
theorem isOtpEmpty_eq : iwlIsOtpEmpty dev = (dev.fails true 0 || dev.link 0 == 0) := by
  unfold iwlIsOtpEmpty
  cases fails : dev.fails true 0 with
  | true =>
    obtain ⟨e, same⟩ := readOtpWord_fails fails 0
    rw [same]
    rfl
  | false =>
    rw [readOtpWord_ok fails]
    rfl

/-! ### The turns -/

/-- Before turn `k + 1`: `k` blocks, from block 0 on, have been read, and none of their links is 0. -/
structure AtBlock (dev : EepromDevice) (k : Nat) (st : LinkWalk) : Prop where
  usedblocks : st.usedblocks = k
  reads : st.reads = k + 1
  /-- The next block is the `k`-th. -/
  next : st.linkValue.toNat * 2 % 65536 = dev.block k
  before : 1 ≤ k → st.nextLinkAddr = dev.block (k - 1)
  linked : dev.link 0 ≠ 0 ∧ ∀ i, i < k → dev.link (dev.block i) ≠ 0
  ok : ∀ n < k + 1, dev.fails true n = false

theorem atBlock_zero (some : iwlIsOtpEmpty dev = false) : AtBlock dev 0 ⟨0, 0, 0, 1⟩ := by
  rw [isOtpEmpty_eq, Bool.or_eq_false_iff, beq_eq_false_iff_ne] at some
  refine ⟨rfl, rfl, rfl, fun no => absurd no (by decide), ⟨some.2, fun i no => absurd no (Nat.not_lt_zero i)⟩, ?_⟩
  intro n below
  obtain rfl : n = 0 := by omega
  exact some.1

variable (maxLlItems validblockaddr) in
/-- **A turn**: the read fails, or the block is the last, or the walk goes on, or it has gone too far. -/
theorem linkTurn_cases {k : Nat} (here : AtBlock dev k st) :
    (dev.fails true (k + 1) = true ∧
      linkTurn dev maxLlItems validblockaddr st = .leave ⟨.error .inval, validblockaddr, k + 2⟩) ∨
    (dev.fails true (k + 1) = false ∧ dev.link (dev.block k) = 0 ∧
      linkTurn dev maxLlItems validblockaddr st = .leave ⟨.ok 0, (dev.block (k - 1) + 2) % 65536, k + 2⟩) ∨
    (k + 1 ≤ maxLlItems ∧ ∃ next, linkTurn dev maxLlItems validblockaddr st = .again next ∧
      AtBlock dev (k + 1) next) ∨
    (dev.fails true (k + 1) = false ∧ dev.link (dev.block k) ≠ 0 ∧ maxLlItems ≤ k ∧
      linkTurn dev maxLlItems validblockaddr st = .leave ⟨.error .inval, validblockaddr, k + 2⟩) := by
  unfold linkTurn
  dsimp only
  rw [here.next, here.reads, here.usedblocks]
  cases fails : dev.fails true (k + 1) with
  | true =>
    obtain ⟨e, same⟩ := readOtpWord_fails fails (dev.block k)
    rw [same]
    exact .inl ⟨rfl, rfl⟩
  | false =>
    rw [readOtpWord_ok fails]
    dsimp only
    by_cases last : dev.link (dev.block k) = 0
    · have one : 1 ≤ k := by
        -- the link of block 0 is not 0
        rcases Nat.eq_zero_or_pos k with rfl | pos
        · exact absurd last here.linked.1
        · exact pos
      rw [if_pos last, here.before one]
      exact .inr (.inl ⟨rfl, last, rfl⟩)
    · rw [if_neg last]
      by_cases more : k + 1 ≤ maxLlItems
      · rw [if_pos more]
        refine .inr (.inr (.inl ⟨more, _, rfl, ?_⟩))
        refine ⟨rfl, rfl, ?_, fun _ => rfl, ⟨here.linked.1, fun i below => ?_⟩, fun n below => ?_⟩
        · rw [EepromDevice.block, Nat.mul_comm]
        · rcases Nat.lt_succ_iff_lt_or_eq.mp below with earlier | rfl
          · exact here.linked.2 i earlier
          · exact last
        · rcases Nat.lt_succ_iff_lt_or_eq.mp below with earlier | rfl
          · exact here.ok n earlier
          · exact fails
      · rw [if_neg more]
        exact .inr (.inr (.inr ⟨rfl, last, by omega, rfl⟩))

/-- The block at which the links end is the first one with link 0. -/
theorem endsAt_unique {i j : Nat} (left : dev.EndsAt i) (right : dev.EndsAt j) : i = j := by
  rcases Nat.lt_trichotomy i j with less | same | less
  · exact absurd left.ends (right.first i left.one_le less)
  · exact same
  · exact absurd right.ends (left.first j right.one_le less)

/-- **How a turn leaves.** -/
theorem right_of_leave {k : Nat} (here : AtBlock dev k st) (most : k ≤ maxLlItems)
    (left : linkTurn dev maxLlItems validblockaddr st = .leave found) :
    found.Right dev maxLlItems validblockaddr := by
  rcases linkTurn_cases maxLlItems validblockaddr here with
    ⟨fails, turn⟩ | ⟨ok, last, turn⟩ | ⟨_, next, turn, _⟩ | ⟨ok, more, far, turn⟩
  · obtain rfl := Turn.leave.inj (turn.symm.trans left)
    refine ⟨by dsimp only; omega, fun all => ?_, fun no => (nomatch no), fun _ no => (nomatch no), fun _ => ⟨rfl, rfl⟩⟩
    exact absurd (all (k + 1) (Nat.lt_succ_self _)) (by rw [fails]; decide)
  · have one : 1 ≤ k := by
      rcases Nat.eq_zero_or_pos k with rfl | pos
      · exact absurd last here.linked.1
      · exact pos
    have ends : dev.EndsAt k := ⟨one, last, fun i _ below => here.linked.2 i below⟩
    obtain rfl := Turn.leave.inj (turn.symm.trans left)
    refine ⟨by dsimp only; omega, fun _ => ?_, fun _ j at_j => ?_, ?_, fun no => absurd rfl no⟩
    · exact iff_of_true rfl ⟨here.linked.1, k, one, most, last⟩
    · rw [endsAt_unique at_j ends]
    · rintro ⟨n, below, fails⟩
      refine absurd fails (Bool.not_eq_true _ ▸ ?_)
      rcases Nat.lt_succ_iff_lt_or_eq.mp below with earlier | rfl
      · exact here.ok n earlier
      · exact ok
  · rw [turn] at left
    cases left
  · obtain rfl := Turn.leave.inj (turn.symm.trans left)
    refine ⟨by dsimp only; omega, fun _ => ?_, fun no => (nomatch no), fun _ no => (nomatch no), fun _ => ⟨rfl, rfl⟩⟩
    refine iff_of_false (fun no => (nomatch no)) ?_
    rintro ⟨_, j, one, few, zero⟩
    rcases Nat.lt_or_ge j k with below | above
    · exact here.linked.2 j below zero
    · obtain rfl : j = k := by omega
      exact more zero

/-! ### The main result -/

/-- **The walk ends, and with what it should.** -/
theorem linkWalk_ends {k : Nat} (here : AtBlock dev k st) (most : k ≤ maxLlItems) :
    ∃ found, run (linkTurn dev maxLlItems validblockaddr) (maxLlItems + 1 - k) st = some found ∧
      found.Right dev maxLlItems validblockaddr := by
  obtain ⟨left, same⟩ : ∃ left, maxLlItems = k + left := ⟨maxLlItems - k, by omega⟩
  induction left generalizing k st with
  | zero =>
    have one : maxLlItems + 1 - k = 1 := by omega
    rw [one, run]
    cases turn : linkTurn dev maxLlItems validblockaddr st with
    | leave found => exact ⟨found, rfl, right_of_leave here most turn⟩
    | again next =>
      rcases linkTurn_cases maxLlItems validblockaddr here with
        ⟨_, other⟩ | ⟨_, _, other⟩ | ⟨more, _⟩ | ⟨_, _, _, other⟩
      · cases turn.symm.trans other
      · cases turn.symm.trans other
      · omega
      · cases turn.symm.trans other
  | succ left ih =>
    have one : maxLlItems + 1 - k = maxLlItems + 1 - (k + 1) + 1 := by omega
    rw [one]
    cases turn : linkTurn dev maxLlItems validblockaddr st with
    | leave found => exact ⟨found, run_leave turn _, right_of_leave here most turn⟩
    | again next =>
      rw [run_again turn]
      rcases linkTurn_cases maxLlItems validblockaddr here with
        ⟨_, other⟩ | ⟨_, _, other⟩ | ⟨more, next', other, after⟩ | ⟨_, _, _, other⟩
      · cases turn.symm.trans other
      · cases turn.symm.trans other
      · obtain rfl := Turn.again.inj (turn.symm.trans other)
        exact ih after more (by omega)
      · cases turn.symm.trans other

/-- **`iwl_find_otp_image`**: after at most `max_ll_items + 1` turns it has done what it should. -/
theorem findOtpImage_ends (dev : EepromDevice) (maxLlItems validblockaddr : Nat) :
    ∃ found, findOtpImage (maxLlItems + 1) dev maxLlItems validblockaddr = some found ∧
      found.Right dev maxLlItems validblockaddr := by
  unfold findOtpImage
  by_cases empty : iwlIsOtpEmpty dev = true
  · rw [if_pos empty]
    refine ⟨_, rfl, by dsimp only; omega, fun ok => ?_, fun no => (nomatch no), fun _ no => (nomatch no),
      fun _ => ⟨rfl, rfl⟩⟩
    rw [isOtpEmpty_eq, ok 0 Nat.zero_lt_one, Bool.false_or, beq_iff_eq] at empty
    exact iff_of_false (fun no => (nomatch no)) fun some => some.1 empty
  · rw [if_neg empty]
    exact linkWalk_ends (atBlock_zero (Bool.not_eq_true _ ▸ empty)) (Nat.zero_le _)

/-! ### The walk of `iwl_read_eeprom` -/

/-- The address and the number of reads, of a walk that succeeds. -/
def OtpImage.outcome (image : OtpImage) : Except Errno (Nat × Nat) :=
  if image.ret = .ok 0 then .ok (image.validblockaddr, image.reads) else .error .inval

theorem walkLinks_eq {left : Nat} (used : st.usedblocks + left = maxLlItems) :
    (run (linkTurn dev maxLlItems validblockaddr) (left + 1) st).map OtpImage.outcome =
      some (walkLinks dev left st.nextLinkAddr st.reads st.linkValue) := by
  induction left generalizing st with
  | zero =>
    have none : ¬ st.usedblocks + 1 ≤ maxLlItems := by omega
    rw [walkLinks, run, linkTurn]
    dsimp only
    cases iwlReadOtpWord dev st.reads (st.linkValue.toNat * 2 % 65536) with
    | error e => rfl
    | ok link =>
      dsimp only
      by_cases last : link = 0
      · rw [if_pos last, if_pos last]
        rfl
      · rw [if_neg last, if_neg last, if_neg none]
        rfl
  | succ left ih =>
    have more : st.usedblocks + 1 ≤ maxLlItems := by omega
    rw [walkLinks, run, linkTurn]
    dsimp only
    cases iwlReadOtpWord dev st.reads (st.linkValue.toNat * 2 % 65536) with
    | error e => rfl
    | ok link =>
      dsimp only
      by_cases last : link = 0
      · rw [if_pos last, if_pos last]
        rfl
      · rw [if_neg last, if_neg last, if_pos more]
        exact ih (by dsimp only; omega)

/-- **The walk with all that it does is the one that `iwl_read_eeprom` goes on from.** -/
theorem findOtpImage_eq (dev : EepromDevice) (call : EepromCall) (validblockaddr : Nat) :
    (findOtpImage (call.maxLlItems + 1) dev call.maxLlItems validblockaddr).map OtpImage.outcome =
      some (iwlFindOtpImage dev call) := by
  unfold findOtpImage iwlFindOtpImage
  cases iwlIsOtpEmpty dev with
  | true => rfl
  | false => exact walkLinks_eq (Nat.zero_add _)

end IntelWifi.Nvm
