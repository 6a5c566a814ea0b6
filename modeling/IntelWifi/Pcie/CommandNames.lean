/-
**The names of commands.**

A command id has a group and an opcode. The table of a group is searched with `bsearch`; when the transport is
configured, `iwl_cmd_groups_verify_sorted` compares each opcode of a table with the next one. Equal opcodes pass,
and a group without a table is passed over.

* `verifySorted_iff`: a table is accepted just when its opcodes ascend.
* `getCmdString_names`: then a command that has a name gets one of its names, and every other one is unknown.
-/

import IntelWifi.Lib.BinarySearch
import IntelWifi.Pcie.Enqueue

namespace IntelWifi.Pcie

open BinarySearch

/-- `struct iwl_hcmd_names`. -/
structure IwlHcmdNames where
  cmdId : UInt8
  cmdName : String
  deriving DecidableEq, Repr

/-- `struct iwl_hcmd_arr`: a null `arr`, or as many names as `size`. -/
abbrev IwlHcmdArr := Option (List IwlHcmdNames)

/-- `iwl_hcmd_names_cmp`. -/
def iwlHcmdNamesCmp (cmd : UInt8) (name : IwlHcmdNames) : Int := (cmd.toNat : Int) - name.cmdId.toNat

/-- `iwl_get_cmd_string`, with `command_groups`, which may be null. -/
def iwlGetCmdString (commandGroups : Option (List IwlHcmdArr)) (id : BitVec 32) : String :=
  match commandGroups with
  | none => "UNKNOWN"
  | some groups =>
    match groups[iwlCmdGroupid id]? with
    | none => "UNKNOWN"
    | some none => "UNKNOWN"
    | some (some arr) =>
      match bsearch (iwlHcmdNamesCmp (UInt8.ofNat (iwlCmdOpcode id))) arr with
      | none => "UNKNOWN"
      | some ret => ret.cmdName

/-- The inner loop of `iwl_cmd_groups_verify_sorted`: no opcode is above the next one. -/
def sortedArr : List IwlHcmdNames → Bool
  | first :: second :: later => if first.cmdId > second.cmdId then false else sortedArr (second :: later)
  | [_] | [] => true

/-- `iwl_cmd_groups_verify_sorted`. -/
def iwlCmdGroupsVerifySorted (commandGroups : Option (List IwlHcmdArr)) : Int :=
  if (commandGroups.getD []).all fun arr => arr.all sortedArr then 0 else -1

/-- The names of a group. -/
def namesOf (commandGroups : Option (List IwlHcmdArr)) (group : Nat) : List IwlHcmdNames :=
  (commandGroups.getD [])[group]?.join.getD []

/-- **A name is right** for a command: it is one of its names, or, when it has none, it says so. -/
structure NamesRight (commandGroups : Option (List IwlHcmdArr)) (id : BitVec 32) (name : String) : Prop where
  named : (∃ entry ∈ namesOf commandGroups (iwlCmdGroupid id), entry.cmdId = UInt8.ofNat (iwlCmdOpcode id)) →
    ∃ entry ∈ namesOf commandGroups (iwlCmdGroupid id),
      entry.cmdId = UInt8.ofNat (iwlCmdOpcode id) ∧ name = entry.cmdName
  unknown : (¬ ∃ entry ∈ namesOf commandGroups (iwlCmdGroupid id), entry.cmdId = UInt8.ofNat (iwlCmdOpcode id)) →
    name = "UNKNOWN"

section Names

variable {commandGroups : Option (List IwlHcmdArr)} {arr : List IwlHcmdNames} {cmd : UInt8} {id : BitVec 32}

/-- **A table is accepted** just when its opcodes ascend. -/
theorem sortedArr_iff (arr : List IwlHcmdNames) :
    sortedArr arr = true ↔ arr.Pairwise fun a b => a.cmdId.toNat ≤ b.cmdId.toNat := by
  rw [← List.isChain_iff_pairwise]
  fun_induction sortedArr arr with
  | case1 first second later above =>
    rw [List.isChain_cons_cons]
    refine iff_of_false Bool.false_ne_true fun chain => ?_
    exact absurd (UInt8.lt_iff_toNat_lt.mp above) (Nat.not_lt.mpr chain.1)
  | case2 first second later notAbove ih =>
    rw [List.isChain_cons_cons, ih]
    exact (and_iff_right (Nat.not_lt.mp fun below => notAbove (UInt8.lt_iff_toNat_lt.mpr below))).symm
  | case3 first => exact iff_of_true rfl (.singleton first)
  | case4 => exact iff_of_true rfl .nil

/-- **The tables are accepted** just when the opcodes of each group ascend. -/
theorem verifySorted_iff : iwlCmdGroupsVerifySorted commandGroups = 0 ↔
    ∀ arr, some arr ∈ commandGroups.getD [] → arr.Pairwise fun a b => a.cmdId.toNat ≤ b.cmdId.toNat := by
  have accepted : iwlCmdGroupsVerifySorted commandGroups = 0 ↔
      ((commandGroups.getD []).all fun arr => arr.all sortedArr) = true := by
    unfold iwlCmdGroupsVerifySorted
    split <;> simp_all
  rw [accepted, List.all_eq_true]
  constructor
  · intro all arr member
    exact (sortedArr_iff arr).mp (all _ member)
  · intro all arr member
    cases arr with
    | none => rfl
    | some arr => exact (sortedArr_iff arr).mpr (all arr member)

/-- Where the opcodes ascend, the comparisons descend. -/
theorem descends_of_ascends (cmd : UInt8) (ascends : arr.Pairwise fun a b => a.cmdId.toNat ≤ b.cmdId.toNat) :
    Descends (iwlHcmdNamesCmp cmd) arr := by
  refine ascends.imp fun {a b} order => ?_
  unfold iwlHcmdNamesCmp
  omega

theorem namesCmp_zero {cmd : UInt8} {entry : IwlHcmdNames} :
    iwlHcmdNamesCmp cmd entry = 0 ↔ entry.cmdId = cmd := by
  unfold iwlHcmdNamesCmp
  rw [← UInt8.toNat_inj]
  omega

/-- What is found for a command: a lookup in the names of its group. -/
theorem getCmdString_eq (commandGroups : Option (List IwlHcmdArr)) (id : BitVec 32) :
    iwlGetCmdString commandGroups id =
      (bsearch (iwlHcmdNamesCmp (UInt8.ofNat (iwlCmdOpcode id))) (namesOf commandGroups (iwlCmdGroupid id))).elim
        "UNKNOWN" (·.cmdName) := by
  unfold iwlGetCmdString namesOf
  cases commandGroups with
  | none => rfl
  | some groups =>
    dsimp only [Option.getD_some]
    cases groups[iwlCmdGroupid id]? with
    | none => rfl
    | some arr =>
      cases arr with
      | none => rfl
      | some arr =>
        dsimp only [Option.join_some, Option.getD_some]
        cases bsearch (iwlHcmdNamesCmp (UInt8.ofNat (iwlCmdOpcode id))) arr <;> rfl

/-- **Every name is right**, in tables that are accepted. -/
theorem getCmdString_names (accepted : iwlCmdGroupsVerifySorted commandGroups = 0) (id : BitVec 32) :
    NamesRight commandGroups id (iwlGetCmdString commandGroups id) := by
  have ascends : (namesOf commandGroups (iwlCmdGroupid id)).Pairwise
      fun a b => a.cmdId.toNat ≤ b.cmdId.toNat := by
    unfold namesOf
    cases here : (commandGroups.getD [])[iwlCmdGroupid id]? with
    | none => exact .nil
    | some arr =>
      cases arr with
      | none => exact .nil
      | some arr => exact verifySorted_iff.mp accepted arr (List.mem_of_getElem? here)
  have descends := descends_of_ascends (UInt8.ofNat (iwlCmdOpcode id)) ascends
  rw [getCmdString_eq]
  cases found : bsearch (iwlHcmdNamesCmp (UInt8.ofNat (iwlCmdOpcode id)))
      (namesOf commandGroups (iwlCmdGroupid id)) with
  | none =>
    refine ⟨fun ⟨entry, member, same⟩ => ?_, fun _ => rfl⟩
    exact absurd (namesCmp_zero.mpr same) (bsearch_missing descends found entry member)
  | some entry =>
    obtain ⟨member, zero⟩ := bsearch_found found
    have same := namesCmp_zero.mp zero
    exact ⟨fun _ => ⟨entry, member, same, rfl⟩, fun missing => absurd ⟨entry, member, same⟩ missing⟩

/-- Two groups, one of them without a table, and the other with an opcode that has two names. -/
def twoGroups : Option (List IwlHcmdArr) :=
  some [none, some [⟨1, "ALIVE"⟩, ⟨2, "ERROR"⟩, ⟨2, "LATE"⟩, ⟨7, "ECHO"⟩]]

theorem getCmdString_names_sample : NamesRight twoGroups 0x102 (iwlGetCmdString twoGroups 0x102) :=
  getCmdString_names (by decide) 0x102

end Names

end IntelWifi.Pcie
