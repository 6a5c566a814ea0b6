/-
**The regulatory domain that the firmware's channel list becomes.**

`iwl_parse_nvm_mcc_info` goes through the channels of a country and writes rules: a frequency range with flags. It
begins a rule at a channel whose flags differ from those of the last one, or whose center is more than 20 MHz above
it; else it moves the end of the last rule. In kHz a valid channel is the span of 20 MHz about its center.

* `mccLoop_merges`: the rules are the spans of the valid channels, joined where they touch and have the same flags.
* `iwlParseNvmMccInfo_meaning`: so a frequency is allowed under some flags just where a valid channel with these
  flags has it; above 2.4 GHz no center of a channel that is not valid is allowed at all.
-/

import IntelWifi.Lib.Checked
import IntelWifi.Lib.Spans
import IntelWifi.NvmParse.Channels

namespace IntelWifi.NvmParse

open Checked Spans
open IntelWifi.Nvm (Nl80211Band)

/-! ### `enum nl80211_reg_rule_flags` -/

def rrfNoOutdoor : BitVec 32 := 1#32 <<< 3
def rrfDfs : BitVec 32 := 1#32 <<< 4
def rrfNoIr : BitVec 32 := 1#32 <<< 7
def rrfAutoBw : BitVec 32 := 1#32 <<< 11
/-- `NL80211_RRF_GO_CONCURRENT`, which is `NL80211_RRF_IR_CONCURRENT`. -/
def rrfGoConcurrent : BitVec 32 := 1#32 <<< 12
def rrfNoHt40minus : BitVec 32 := 1#32 <<< 13
def rrfNoHt40plus : BitVec 32 := 1#32 <<< 14
def rrfNo80mhz : BitVec 32 := 1#32 <<< 15
def rrfNo160mhz : BitVec 32 := 1#32 <<< 16

/-! ### Rules -/

/-- Why there is no regulatory domain. -/
inductive RegError where
  | einval
  | enomem
  deriving DecidableEq, Repr

/-- `struct ieee80211_reg_rule`. What `reg_query_regdb_wmm` leaves in `wmm_rule` is a parameter. -/
structure RegRule (W : Type) where
  startFreqKhz : Nat
  endFreqKhz : Nat
  maxBandwidthKhz : Nat
  maxAntennaGain : Nat
  maxEirp : Nat
  flags : BitVec 32
  wmmRule : Option W
  deriving DecidableEq, Repr

/-- As `kzalloc` leaves it. -/
def RegRule.zero {W : Type} : RegRule W := ⟨0, 0, 0, 0, 0, 0, none⟩

/-- `struct ieee80211_regdomain`. -/
structure Regdomain (W : Type) where
  alpha2 : BitVec 8 × BitVec 8
  rules : List (RegRule W)
  deriving DecidableEq, Repr

/-- Which of the three allocations succeed. -/
structure RegMemory where
  regd : Bool
  ptrs : Bool
  copy : Bool

/-- `IWL_DEFAULT_MAX_TX_POWER`. -/
def iwlDefaultMaxTxPower : Nat := 22

/-- `NL80211_MAX_SUPP_REG_RULES`. -/
def maxSuppRegRules : Nat := 64

/-- `GEO_WMM_ETSI_5GHZ_INFO`. -/
def geoWmmEtsi5ghzInfo : BitVec 16 := 1#16 <<< 0

/-- `iwl_nvm_get_regdom_bw_flags`. -/
def iwlNvmGetRegdomBwFlags (type : IwlNvmType) (chIdx chan : Nat) (nvmFlags : BitVec 16) : BitVec 32 :=
  let flags := rrfNoHt40minus ||| rrfNoHt40plus
  let flags :=
    if chIdx < num2ghzChannels && has nvmFlags nvmChannel40mhz then
      let flags := if chan ≤ last2ghzHtPlus then flags &&& ~~~rrfNoHt40plus else flags
      if first2ghzHtMinus ≤ chan then flags &&& ~~~rrfNoHt40minus else flags
    else if chan ≤ type.last5ghzHt && has nvmFlags nvmChannel40mhz then
      if (chIdx - num2ghzChannels) % 2 = 0 then flags &&& ~~~rrfNoHt40plus else flags &&& ~~~rrfNoHt40minus
    else flags
  let flags := if has nvmFlags nvmChannel80mhz then flags else flags ||| rrfNo80mhz
  let flags := if has nvmFlags nvmChannel160mhz then flags else flags ||| rrfNo160mhz
  let flags := if has nvmFlags nvmChannelActive then flags else flags ||| rrfNoIr
  let flags := if has nvmFlags nvmChannelRadar then flags ||| rrfDfs else flags
  let flags := if has nvmFlags nvmChannelIndoorOnly then flags ||| rrfNoOutdoor else flags
  if has nvmFlags nvmChannelGoConcurrent && flags &&& rrfNoIr != 0 then flags ||| rrfGoConcurrent else flags

section Loop

variable {W : Type}

/-- The variables of the loop: the rules up to `valid_rules`, and the flags and the center of the last channel. -/
structure RegdState (W : Type) where
  rules : List (RegRule W)
  prevRegRuleFlags : BitVec 32
  prevCenterFreq : Nat

def RegdState.start : RegdState W := ⟨[], 0, 0⟩

/-- What is written to the rule of a channel, before its WMM rule. -/
def RegRule.write (centerFreq : Nat) (flags : BitVec 32) (rule : RegRule W) : RegRule W :=
  { rule with
    endFreqKhz := (centerFreq + 10) * 1000
    maxBandwidthKhz := 0
    maxAntennaGain := 6 * 100
    maxEirp := iwlDefaultMaxTxPower * 100
    flags := flags ||| rrfAutoBw }

/-- One turn of the loop. `wmm` is `reg_query_regdb_wmm` for this country. -/
def mccTurn (type : IwlNvmType) (geoInfo : BitVec 16) (wmm : Nat → Option W → Option W) (channels : List (BitVec 32))
    (st : RegdState W) (chIdx : Nat) : Outcome RegError (RegdState W) :=
  match channels[chIdx]?, type.channels[chIdx]? with
  | some word, some chan =>
    let chFlags := word.setWidth 16
    let band := bandOf chIdx
    let centerFreq := ieee80211ChannelToFrequency chan band
    if !has chFlags nvmChannelValid then .ok st
    else
      let regRuleFlags := iwlNvmGetRegdomBwFlags type chIdx chan chFlags
      let newRule := chIdx = 0 ∨ st.prevRegRuleFlags ≠ regRuleFlags ∨ st.prevCenterFreq + 20 < centerFreq
      let rules :=
        if newRule then st.rules ++ [{ RegRule.zero with startFreqKhz := (centerFreq - 10) * 1000 }] else st.rules
      -- `valid_rules - 1` is no index of a rule when there is none
      if rules.isEmpty then .error .fault
      else
        let rules := rules.modifyLast (RegRule.write centerFreq regRuleFlags)
        let queried := has geoInfo geoWmmEtsi5ghzInfo && band == .ghz5
        let rules :=
          if queried then rules.modifyLast fun rule => { rule with wmmRule := wmm centerFreq rule.wmmRule } else rules
        .ok ⟨rules, regRuleFlags, centerFreq⟩
  | _, _ => .error .fault

/-- `iwl_parse_nvm_mcc_info`. -/
def iwlParseNvmMccInfo (type : IwlNvmType) (numOfCh : Nat) (channels : List (BitVec 32)) (fwMcc geoInfo : BitVec 16)
    (memory : RegMemory) (regQueryRegdbWmm : BitVec 8 × BitVec 8 → Nat → Option W → Option W) :
    Outcome RegError (Regdomain W) :=
  if maxSuppRegRules < numOfCh then .error (.error .einval)
  else do
    let numOfCh := if type.channels.length < numOfCh then type.channels.length else numOfCh
    if !memory.regd then .error (.error .enomem)
    if !memory.ptrs then .error (.error .enomem)
    let alpha2 := ((fwMcc >>> 8).setWidth 8, (fwMcc &&& 0xff).setWidth 8)
    let st ← (List.range numOfCh).foldlM (mccTurn type geoInfo (regQueryRegdbWmm alpha2) channels) .start
    if !memory.copy then .error (.error .enomem)
    .ok ⟨alpha2, st.rules⟩

end Loop

/-! ### What the list means -/

/-- The flags of a channel's rule. -/
def ruleFlags (type : IwlNvmType) (chIdx chan : Nat) (word : BitVec 32) : BitVec 32 :=
  iwlNvmGetRegdomBwFlags type chIdx chan (word.setWidth 16) ||| rrfAutoBw

/-- The span of a valid channel, in kHz. -/
def channelSpan (type : IwlNvmType) (channels : List (BitVec 32)) (chIdx : Nat) : Option (Span Nat (BitVec 32)) :=
  match channels[chIdx]?, type.channels[chIdx]? with
  | some word, some chan =>
    let centerFreq := ieee80211ChannelToFrequency chan (bandOf chIdx)
    if has (word.setWidth 16) nvmChannelValid then
      some ⟨(centerFreq - 10) * 1000, (centerFreq + 10) * 1000, ruleFlags type chIdx chan word⟩
    else none
  | _, _ => none

/-- The spans of the valid channels among the first `n`. -/
def validSpans (type : IwlNvmType) (channels : List (BitVec 32)) (n : Nat) : List (Span Nat (BitVec 32)) :=
  (List.range n).filterMap (channelSpan type channels)

def RegRule.span {W : Type} (rule : RegRule W) : Span Nat (BitVec 32) :=
  ⟨rule.startFreqKhz, rule.endFreqKhz, rule.flags⟩

/-! ### Flags -/

section Flags

variable {type : IwlNvmType} {chIdx chan : Nat} {nvmFlags : BitVec 16}

theorem clear_or {flags more mask : BitVec 32} (clear : flags &&& mask = 0) (other : more &&& mask = 0) :
    (flags ||| more) &&& mask = 0 := by
  rw [BitVec.and_or_distrib_right, clear, other]
  rfl

theorem clear_and {flags mask : BitVec 32} (kept : BitVec 32) (clear : flags &&& mask = 0) :
    (flags &&& kept) &&& mask = 0 := by
  rw [BitVec.and_assoc, BitVec.and_comm kept mask, ← BitVec.and_assoc, clear]
  exact BitVec.zero_and

theorem clear_ite {c : Prop} [Decidable c] {flags other mask : BitVec 32} (pos : flags &&& mask = 0)
    (neg : other &&& mask = 0) : (if c then flags else other) &&& mask = 0 := by
  split
  · exact pos
  · exact neg

/-- `NL80211_RRF_AUTO_BW` is not among the flags of a channel. -/
theorem bwFlags_autoBw : iwlNvmGetRegdomBwFlags type chIdx chan nvmFlags &&& rrfAutoBw = 0 := by
  have start : (rrfNoHt40minus ||| rrfNoHt40plus) &&& rrfAutoBw = 0 := by decide
  have add {c : Prop} [Decidable c] {flags : BitVec 32} (more : BitVec 32) (other : more &&& rrfAutoBw = 0)
      (clear : flags &&& rrfAutoBw = 0) : (if c then flags ||| more else flags) &&& rrfAutoBw = 0 :=
    clear_ite (clear_or clear other) clear
  have orElse {c : Prop} [Decidable c] {flags : BitVec 32} (more : BitVec 32) (other : more &&& rrfAutoBw = 0)
      (clear : flags &&& rrfAutoBw = 0) : (if c then flags else flags ||| more) &&& rrfAutoBw = 0 :=
    clear_ite clear (clear_or clear other)
  unfold iwlNvmGetRegdomBwFlags
  dsimp only
  refine add _ (by decide) (add _ (by decide) (add _ (by decide) ?_))
  refine orElse _ (by decide) (orElse _ (by decide) (orElse _ (by decide) ?_))
  have low := clear_ite (c := chan ≤ last2ghzHtPlus) (clear_and (~~~rrfNoHt40plus) start) start
  exact clear_ite (clear_ite (clear_and _ low) low)
    (clear_ite (clear_ite (clear_and _ start) (clear_and _ start)) start)

/-- Two images without a flag are the same when they are with it. -/
theorem or_inj {a b mask : BitVec 32} (clear : a &&& mask = 0) (clear' : b &&& mask = 0)
    (same : a ||| mask = b ||| mask) : a = b := by
  have without {c : BitVec 32} (clear : c &&& mask = 0) : (c ||| mask) &&& ~~~mask = c := by
    ext i inside
    have bit : (c &&& mask)[i] = false := by rw [clear]; exact BitVec.getElem_zero inside
    rw [BitVec.getElem_and] at bit
    rw [BitVec.getElem_and, BitVec.getElem_or, BitVec.getElem_not]
    cases here : mask[i] <;> simp_all
  rw [← without clear, same, without clear']

end Flags

/-! ### The loop -/

section Turns

variable {W : Type} {type : IwlNvmType} {geoInfo : BitVec 16} {wmm : Nat → Option W → Option W}
  {channels : List (BitVec 32)} {st : RegdState W} {spans : List (Span Nat (BitVec 32))}

/-- The rules are what the spans so far merge to, and the variables of the loop describe the last one. -/
structure Follows (spans : List (Span Nat (BitVec 32))) (st : RegdState W) : Prop where
  rules : st.rules.map RegRule.span = merged spans
  flags : ∀ rule, st.rules.getLast? = some rule → rule.flags = st.prevRegRuleFlags ||| rrfAutoBw
  ends : ∀ rule, st.rules.getLast? = some rule → rule.endFreqKhz = (st.prevCenterFreq + 10) * 1000
  clear : st.prevRegRuleFlags &&& rrfAutoBw = 0
  fresh : st.rules = [] → st.prevCenterFreq = 0

theorem follows_start : Follows [] (.start : RegdState W) where
  rules := rfl
  flags := by simp [RegdState.start]
  ends := by simp [RegdState.start]
  clear := by simp [RegdState.start]
  fresh := fun _ => rfl

theorem merged_append (t : Span Nat (BitVec 32)) : merged (spans ++ [t]) = add (merged spans) t := by
  unfold merged
  rw [List.foldl_append]
  rfl

/-- The rule of a channel that is written, whether it is new or not. -/
theorem follows_written (rules : List (RegRule W)) {last : RegRule W} {centerFreq : Nat} {flags : BitVec 32}
    {t : Span Nat (BitVec 32)} (clear : flags &&& rrfAutoBw = 0)
    (ends : t.last = (centerFreq + 10) * 1000) (label : t.label = flags ||| rrfAutoBw)
    (fits : (rules.map RegRule.span) ++ [{ last.span with last := t.last, label := t.label }] = merged (spans ++ [t]))
    (queried : Bool) :
    Follows (spans ++ [t])
      ⟨if queried then
          ((rules ++ [last]).modifyLast (RegRule.write centerFreq flags)).modifyLast fun rule =>
            { rule with wmmRule := wmm centerFreq rule.wmmRule }
        else (rules ++ [last]).modifyLast (RegRule.write centerFreq flags), flags, centerFreq⟩ := by
  have written : ∃ rule : RegRule W, rule.span = { last.span with last := t.last, label := t.label } ∧
      (if queried then
          ((rules ++ [last]).modifyLast (RegRule.write centerFreq flags)).modifyLast fun rule =>
            { rule with wmmRule := wmm centerFreq rule.wmmRule }
        else (rules ++ [last]).modifyLast (RegRule.write centerFreq flags)) = rules ++ [rule] := by
    rw [List.modifyLast_concat, List.modifyLast_concat, ends, label]
    cases queried
    · exact ⟨_, rfl, rfl⟩
    · exact ⟨_, rfl, rfl⟩
  obtain ⟨rule, span, is⟩ := written
  rw [is]
  have labels : rule.flags = flags ||| rrfAutoBw := (congrArg Span.label span).trans label
  have reaches : rule.endFreqKhz = (centerFreq + 10) * 1000 := (congrArg Span.last span).trans ends
  constructor
  · dsimp only
    rw [List.map_append, ← fits, List.map_singleton, span]
  · intro other same
    rw [List.getLast?_concat, Option.some.injEq] at same
    rw [← same, labels]
  · intro other same
    rw [List.getLast?_concat, Option.some.injEq] at same
    rw [← same, reaches]
  · exact clear
  · intro none
    simp at none

variable (geoInfo wmm) in
/-- **One turn** adds the span of its channel, if that is valid. -/
theorem mccTurn_follows {chIdx : Nat} (follows : Follows spans st) (first : chIdx = 0 → st.rules = [])
    (listed : chIdx < channels.length) (known : chIdx < type.channels.length) :
    ∃ st', mccTurn type geoInfo wmm channels st chIdx = .ok st' ∧
      Follows (spans ++ (channelSpan type channels chIdx).toList) st' := by
  obtain ⟨word, hasWord⟩ : ∃ word, channels[chIdx]? = some word := ⟨_, List.getElem?_eq_getElem listed⟩
  obtain ⟨chan, hasChan⟩ : ∃ chan, type.channels[chIdx]? = some chan := ⟨_, List.getElem?_eq_getElem known⟩
  unfold mccTurn channelSpan
  rw [hasWord, hasChan]
  dsimp only
  cases valid : has (word.setWidth 16) nvmChannelValid with
  | false =>
    refine ⟨st, rfl, ?_⟩
    rw [if_neg Bool.false_ne_true, Option.toList_none, List.append_nil]
    exact follows
  | true =>
    have center : 2412 ≤ ieee80211ChannelToFrequency chan (bandOf chIdx) := by
      refine @center_ge type chIdx _ ?_
      unfold IwlNvmType.centers
      rw [List.getElem?_mapIdx, hasChan]
      rfl
    rw [Bool.not_true, if_neg Bool.false_ne_true, if_pos rfl, Option.toList_some]
    generalize ieee80211ChannelToFrequency chan (bandOf chIdx) = centerFreq at center ⊢
    unfold ruleFlags
    have clear : iwlNvmGetRegdomBwFlags type chIdx chan (word.setWidth 16) &&& rrfAutoBw = 0 := bwFlags_autoBw
    generalize iwlNvmGetRegdomBwFlags type chIdx chan (word.setWidth 16) = flags at clear ⊢
    set t : Span Nat (BitVec 32) := ⟨(centerFreq - 10) * 1000, (centerFreq + 10) * 1000, flags ||| rrfAutoBw⟩
    rcases List.eq_nil_or_concat' st.rules with none | ⟨rules, last, is⟩
    · have far : st.prevCenterFreq + 20 < centerFreq := by rw [follows.fresh none]; omega
      have nothing : merged spans = [] := by rw [← follows.rules, none]; rfl
      have new : chIdx = 0 ∨ st.prevRegRuleFlags ≠ flags ∨ st.prevCenterFreq + 20 < centerFreq := .inr (.inr far)
      rw [if_pos new, none, List.nil_append]
      refine ⟨_, rfl, ?_⟩
      exact follows_written [] clear rfl rfl (by rw [merged_append, nothing]; rfl) _
    · have later : chIdx ≠ 0 := fun zero => by simp [first zero] at is
      have ends : last.endFreqKhz = (st.prevCenterFreq + 10) * 1000 :=
        follows.ends last (by rw [is]; exact List.getLast?_concat)
      have labels : last.flags = st.prevRegRuleFlags ||| rrfAutoBw :=
        follows.flags last (by rw [is]; exact List.getLast?_concat)
      have before : merged spans = rules.map RegRule.span ++ [last.span] := by
        rw [← follows.rules, is, List.map_append]
        rfl
      have joins : last.span.joins t = true ↔ st.prevRegRuleFlags = flags ∧ centerFreq ≤ st.prevCenterFreq + 20 := by
        show decide (last.flags = flags ||| rrfAutoBw ∧ (centerFreq - 10) * 1000 ≤ last.endFreqKhz) = true ↔ _
        rw [decide_eq_true_iff, labels, ends]
        refine and_congr ⟨or_inj follows.clear clear, fun same => by rw [same]⟩ ?_
        omega
      by_cases new : chIdx = 0 ∨ st.prevRegRuleFlags ≠ flags ∨ st.prevCenterFreq + 20 < centerFreq
      · have apart : last.span.joins t = false := by
          rw [Bool.eq_false_iff, Ne, joins]
          rintro ⟨same, near⟩
          rcases new with zero | other | far
          · exact later zero
          · exact other same
          · omega
        rw [if_pos new, is]
        refine ⟨_, if_neg (by simp), ?_⟩
        refine follows_written (rules ++ [last]) clear rfl rfl ?_ _
        rw [merged_append, before, add_apart apart, List.map_append]
        rfl
      · have touch : last.span.joins t = true := by
          rw [joins]
          rw [not_or, not_or, not_not, Nat.not_lt] at new
          exact new.2
        rw [if_neg new, is]
        refine ⟨_, if_neg (by simp), ?_⟩
        refine follows_written rules clear rfl rfl ?_ _
        have same : t.label = last.span.label := (of_decide_eq_true touch).1.symm
        rw [merged_append, before, add_join touch, same]

variable (geoInfo wmm) in
/-- **The rules are the spans of the valid channels**, merged. -/
theorem mccLoop_merges {n : Nat} (listed : n ≤ channels.length) (known : n ≤ type.channels.length) :
    ∃ st, (List.range n).foldlM (mccTurn type geoInfo wmm channels) .start = .ok st ∧
      Follows (validSpans type channels n) st ∧ (n = 0 → st.rules = []) := by
  induction n with
  | zero => exact ⟨.start, rfl, follows_start, fun _ => rfl⟩
  | succ n ih =>
    obtain ⟨st, ran, follows, first⟩ := ih (Nat.le_of_succ_le listed) (Nat.le_of_succ_le known)
    obtain ⟨st', turned, goesOn⟩ := mccTurn_follows geoInfo wmm follows first listed known
    refine ⟨st', ?_, ?_, fun zero => absurd zero (Nat.succ_ne_zero n)⟩
    · rw [List.range_succ, List.foldlM_append, ran, ok_bind, List.foldlM_cons, turned]
      rfl
    · unfold validSpans at goesOn ⊢
      rw [List.range_succ, List.filterMap_append]
      cases span : channelSpan type channels n <;> simpa [span] using goesOn

end Turns

/-! ### The meaning of the rules -/

/-- The channel is valid, with this center and these flags for its rule. -/
def Permits (type : IwlNvmType) (channels : List (BitVec 32)) (chIdx centerFreq : Nat) (flags : BitVec 32) : Prop :=
  ∃ word chan, channels[chIdx]? = some word ∧ type.channels[chIdx]? = some chan ∧
    has (word.setWidth 16) nvmChannelValid = true ∧
    centerFreq = ieee80211ChannelToFrequency chan (bandOf chIdx) ∧ flags = ruleFlags type chIdx chan word

/-- **What rules are to mean** for the first `n` channels of a list. -/
structure Means {W : Type} (type : IwlNvmType) (channels : List (BitVec 32)) (n : Nat) (rules : List (RegRule W)) :
    Prop where
  /-- A frequency is allowed under some flags where a valid channel with these flags has it. -/
  allows : ∀ khz flags, Allows (rules.map RegRule.span) khz flags ↔
    ∃ chIdx < n, ∃ centerFreq, Permits type channels chIdx centerFreq flags ∧
      (centerFreq - 10) * 1000 ≤ khz ∧ khz ≤ (centerFreq + 10) * 1000
  /-- Above 2.4 GHz the center of a channel is allowed only if the channel is valid. -/
  exact : ∀ chIdx centerFreq flags, num2ghzChannels ≤ chIdx → type.centers[chIdx]? = some centerFreq →
    (Allows (rules.map RegRule.span) (centerFreq * 1000) flags ↔
      chIdx < n ∧ Permits type channels chIdx centerFreq flags)
  /-- No two rules that follow each other could be one. -/
  apart : Apart (rules.map RegRule.span)
  /-- There is room for the rules. -/
  few : rules.length ≤ n

section Meaning

variable {W : Type} {type : IwlNvmType} {channels : List (BitVec 32)} {chIdx n : Nat}

theorem Permits.center {centerFreq : Nat} {flags : BitVec 32} (permits : Permits type channels chIdx centerFreq flags) :
    type.centers[chIdx]? = some centerFreq := by
  obtain ⟨word, chan, _, hasChan, _, rfl, _⟩ := permits
  unfold IwlNvmType.centers
  rw [List.getElem?_mapIdx, hasChan]
  rfl

theorem channelSpan_eq_some_iff {t : Span Nat (BitVec 32)} : channelSpan type channels chIdx = some t ↔
    ∃ centerFreq, Permits type channels chIdx centerFreq t.label ∧ t.first = (centerFreq - 10) * 1000 ∧
      t.last = (centerFreq + 10) * 1000 := by
  unfold channelSpan Permits
  cases channels[chIdx]? with
  | none => simp
  | some word =>
    cases type.channels[chIdx]? with
    | none => simp
    | some chan =>
      dsimp only
      split
      · next valid =>
        rw [Option.some.injEq]
        constructor
        · rintro rfl
          exact ⟨_, ⟨word, chan, rfl, rfl, valid, rfl, rfl⟩, rfl, rfl⟩
        · rintro ⟨_, ⟨_, _, same, same', _, rfl, label⟩, first, last⟩
          obtain rfl := Option.some.inj same
          obtain rfl := Option.some.inj same'
          ext1
          · exact first.symm
          · exact last.symm
          · exact label.symm
      · next invalid =>
        refine iff_of_false (by simp) ?_
        rintro ⟨_, ⟨_, _, same, _, valid, _⟩, _⟩
        obtain rfl := Option.some.inj same
        exact invalid valid

theorem validSpans_ordered : (validSpans type channels n).Pairwise Span.before := by
  unfold validSpans
  refine List.Pairwise.filterMap _ (R := fun i j => i < j) (fun i j before s first t second => ?_) List.pairwise_lt_range
  obtain ⟨a, permits, firstA, lastA⟩ := channelSpan_eq_some_iff.mp first
  obtain ⟨b, permits', firstB, lastB⟩ := channelSpan_eq_some_iff.mp second
  have below := center_lt permits.center permits'.center before
  unfold Span.before
  omega

theorem allows_validSpans {khz : Nat} {flags : BitVec 32} : Allows (validSpans type channels n) khz flags ↔
    ∃ chIdx < n, ∃ centerFreq, Permits type channels chIdx centerFreq flags ∧
      (centerFreq - 10) * 1000 ≤ khz ∧ khz ≤ (centerFreq + 10) * 1000 := by
  unfold Allows validSpans
  constructor
  · rintro ⟨t, member, rfl, inside⟩
    obtain ⟨chIdx, listed, span⟩ := List.mem_filterMap.mp member
    obtain ⟨centerFreq, permits, first, last⟩ := channelSpan_eq_some_iff.mp span
    rw [first, last] at inside
    exact ⟨chIdx, List.mem_range.mp listed, centerFreq, permits, inside⟩
  · rintro ⟨chIdx, listed, centerFreq, permits, inside⟩
    refine ⟨⟨(centerFreq - 10) * 1000, (centerFreq + 10) * 1000, flags⟩, ?_, rfl, inside⟩
    rw [List.mem_filterMap]
    exact ⟨chIdx, List.mem_range.mpr listed, channelSpan_eq_some_iff.mpr ⟨centerFreq, permits, rfl, rfl⟩⟩

theorem length_validSpans_le : (validSpans type channels n).length ≤ n := by
  have most := List.length_filterMap_le (channelSpan type channels) (List.range n)
  rwa [List.length_range] at most

/-- A valid channel that has the center of a channel above 2.4 GHz is that channel. -/
theorem same_channel {i j a b : Nat} (first : type.centers[i]? = some a) (second : type.centers[j]? = some b)
    (high : num2ghzChannels ≤ j) (inside : (a - 10) * 1000 ≤ b * 1000 ∧ b * 1000 ≤ (a + 10) * 1000) : i = j := by
  rcases Nat.lt_trichotomy i j with before | same | after
  · have far := center_far first second high before
    omega
  · exact same
  · have far := center_far second first (high.trans after.le) after
    omega

theorem Follows.means {st : RegdState W} (follows : Follows (validSpans type channels n) st) :
    Means type channels n st.rules := by
  have allows (khz : Nat) (flags : BitVec 32) : Allows (st.rules.map RegRule.span) khz flags ↔
      ∃ chIdx < n, ∃ centerFreq, Permits type channels chIdx centerFreq flags ∧
        (centerFreq - 10) * 1000 ≤ khz ∧ khz ≤ (centerFreq + 10) * 1000 := by
    rw [follows.rules, allows_merged validSpans_ordered.isChain, allows_validSpans]
  refine ⟨allows, fun chIdx centerFreq flags high center => ?_, follows.rules ▸ apart_merged _, ?_⟩
  · rw [allows]
    constructor
    · rintro ⟨other, listed, otherFreq, permits, inside⟩
      obtain rfl := same_channel permits.center center high inside
      obtain rfl := Option.some.inj (permits.center.symm.trans center)
      exact ⟨listed, permits⟩
    · rintro ⟨listed, permits⟩
      exact ⟨chIdx, listed, centerFreq, permits, by omega, by omega⟩
  · rw [← List.length_map RegRule.span, follows.rules]
    exact (length_merged_le _).trans length_validSpans_le

/-- **The rules mean what the firmware's list means**, if there is memory. -/
theorem iwlParseNvmMccInfo_meaning {numOfCh : Nat} (fwMcc geoInfo : BitVec 16) (memory : RegMemory)
    (regQueryRegdbWmm : BitVec 8 × BitVec 8 → Nat → Option W → Option W) (few : numOfCh ≤ maxSuppRegRules)
    (listed : min numOfCh type.channels.length ≤ channels.length) :
    let parsed := iwlParseNvmMccInfo type numOfCh channels fwMcc geoInfo memory regQueryRegdbWmm
    if memory.regd && memory.ptrs && memory.copy then
      ∃ regd, parsed = .ok regd ∧ regd.alpha2 = ((fwMcc >>> 8).setWidth 8, fwMcc.setWidth 8) ∧
        Means type channels (min numOfCh type.channels.length) regd.rules
    else parsed = .error (.error .enomem) := by
  intro parsed
  have clamped : (if type.channels.length < numOfCh then type.channels.length else numOfCh) =
      min numOfCh type.channels.length := by
    split <;> omega
  obtain ⟨st, ran, follows, _⟩ := mccLoop_merges geoInfo
    (regQueryRegdbWmm ((fwMcc >>> 8).setWidth 8, (fwMcc &&& 0xff).setWidth 8)) listed (Nat.min_le_right _ _)
  have here : parsed = iwlParseNvmMccInfo type numOfCh channels fwMcc geoInfo memory regQueryRegdbWmm := rfl
  unfold iwlParseNvmMccInfo at here
  rw [if_neg (Nat.not_lt.mpr few)] at here
  dsimp only at here
  rw [clamped, ran] at here
  obtain ⟨regd, ptrs, copy⟩ := memory
  cases regd
  · exact here
  cases ptrs
  · exact here
  cases copy
  · exact here
  · refine ⟨_, here, ?_, follows.means⟩
    have low : (fwMcc &&& 0xff).setWidth 8 = fwMcc.setWidth 8 := by
      ext i inside
      simp only [BitVec.getElem_setWidth, BitVec.getLsbD_and]
      have set : (0xff : BitVec 16).getLsbD i = true := by
        revert i
        decide
      rw [set, Bool.and_true]
    dsimp only
    rw [low]

end Meaning

/-- Channels 1 and 3 are valid and channel 2 is not, and of 36 and 40 the first. -/
def gappedList : List (BitVec 32) := [1, 0, 1] ++ List.replicate 11 0 ++ [1, 0]

/-- One rule for channels 1 to 3, and one for channel 36. -/
theorem iwlParseNvmMccInfo_gappedList :
    (∃ regd, iwlParseNvmMccInfo .ext 16 gappedList 0x5553 0 ⟨true, true, true⟩ (fun _ _ (rule : Option Unit) => rule) =
        .ok regd ∧ regd.alpha2 = ((0x5553#16 >>> 8).setWidth 8, (0x5553#16).setWidth 8) ∧
      Means .ext gappedList 16 regd.rules) ∧
    ((iwlParseNvmMccInfo .ext 16 gappedList 0x5553 0 ⟨true, true, true⟩ (fun _ _ (rule : Option Unit) => rule)).map
      fun regd => regd.rules.map fun rule => (rule.startFreqKhz, rule.endFreqKhz)) =
        .ok [(2402000, 2432000), (5170000, 5190000)] :=
  ⟨iwlParseNvmMccInfo_meaning 0x5553 0 ⟨true, true, true⟩ _ (by decide) (by decide), by decide +kernel⟩

end IntelWifi.NvmParse
