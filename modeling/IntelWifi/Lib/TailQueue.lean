/-
**Singly linked tail queues in memory.**

A head keeps the first element and the place of the last link, as `STAILQ_HEAD` does, and each element
keeps the next one. An element is a block of the heap: what goes through a pointer to a block that is not
allocated, or through NULL, is a fault. A walk is given a bound on its turns, and says so when it reaches it.

* `Holds`: the queue is a list of different allocated elements.
* `insertTail_ok`, `insertAfter_ok`, `remove_ok`: the list after each operation.
* `walk_ok`: a walk visits the list in its order.
-/

import IntelWifi.Lib.Heap
import Mathlib.Data.List.Nodup

namespace IntelWifi.TailQueue

open Heap

/-- Why an operation does not end well: memory is misused, or a walk does not end within its bound. -/
inductive Stop where
  | memory (fault : Fault)
  | endless
  deriving DecidableEq, Repr

/-- Where a link is: `stqh_first` of the head, or `stqe_next` of an element. -/
inductive Place (Node : Type) where
  | head
  | next (node : Node)
  deriving DecidableEq, Repr

/-- `STAILQ_HEAD` with the links of all elements. -/
structure Queue (Node : Type) where
  first : Pointer Node
  last : Place Node
  next : Node → Pointer Node

variable {Node : Type} [DecidableEq Node]

/-- `STAILQ_INIT`. -/
def init (next : Node → Pointer Node) : Queue Node := ⟨none, .head, next⟩

/-- The element that a pointer is of, when it is followed. -/
def follow (heap : Blocks Node) : Pointer Node → Except Stop Node
  | none => .error (.memory .null)
  | some node => if heap node = .live then .ok node else .error (.memory .stale)

/-- A link is written. -/
def Queue.link (queue : Queue Node) (place : Place Node) (target : Pointer Node) : Queue Node :=
  match place with
  | .head => { queue with first := target }
  | .next node => { queue with next := Function.update queue.next node target }

/-- `STAILQ_INSERT_TAIL`. -/
def insertTail (heap : Blocks Node) (queue : Queue Node) (elm : Node) : Except Stop (Queue Node) := do
  let elm ← follow heap (some elm)
  let queue := queue.link (.next elm) none
  match queue.last with
  | .head => .ok { queue.link .head (some elm) with last := .next elm }
  | .next node => do
    let node ← follow heap (some node)
    .ok { queue.link (.next node) (some elm) with last := .next elm }

/-- `STAILQ_INSERT_AFTER`. -/
def insertAfter (heap : Blocks Node) (queue : Queue Node) (tqelm elm : Node) : Except Stop (Queue Node) := do
  let tqelm ← follow heap (some tqelm)
  let elm ← follow heap (some elm)
  let target := queue.next tqelm
  let queue := queue.link (.next elm) target
  let queue := if target = none then { queue with last := .next elm } else queue
  .ok (queue.link (.next tqelm) (some elm))

/-- `STAILQ_REMOVE_HEAD`. -/
def removeHead (heap : Blocks Node) (queue : Queue Node) : Except Stop (Queue Node) := do
  let elm ← follow heap queue.first
  let target := queue.next elm
  let queue := queue.link .head target
  .ok (if target = none then { queue with last := .head } else queue)

/-- `STAILQ_REMOVE_AFTER`. -/
def removeAfter (heap : Blocks Node) (queue : Queue Node) (elm : Node) : Except Stop (Queue Node) := do
  let elm ← follow heap (some elm)
  let removed ← follow heap (queue.next elm)
  let target := queue.next removed
  let queue := queue.link (.next elm) target
  .ok (if target = none then { queue with last := .next elm } else queue)

/-- The element before another one: the walk of `STAILQ_REMOVE`, which does not look for the end. -/
def previous (heap : Blocks Node) (queue : Queue Node) (elm : Node) : Nat → Pointer Node → Except Stop Node
  | 0, _ => .error .endless
  | turns + 1, curelm => do
    let curelm ← follow heap curelm
    if queue.next curelm = some elm then .ok curelm else previous heap queue elm turns (queue.next curelm)

/-- `STAILQ_REMOVE`. -/
def remove (heap : Blocks Node) (turns : Nat) (queue : Queue Node) (elm : Node) : Except Stop (Queue Node) :=
  if queue.first = some elm then removeHead heap queue
  else do
    let curelm ← previous heap queue elm turns queue.first
    removeAfter heap queue curelm

/-- `STAILQ_FOREACH` with a body that leaves the queue alone: either it goes on with a state, or it leaves the
loop with a result. -/
def walk {State Result : Type} (heap : Blocks Node) (queue : Queue Node)
    (visit : Node → State → State ⊕ Result) : Nat → Pointer Node → State → Except Stop (State ⊕ Result)
  | 0, _, _ => .error .endless
  | _ + 1, none, state => .ok (.inl state)
  | turns + 1, some node, state => do
    let node ← follow heap (some node)
    match visit node state with
    | .inl state => walk heap queue visit turns (queue.next node) state
    | .inr result => .ok (.inr result)

/-- The same body over a list. -/
def visitAll {State Result : Type} (visit : Node → State → State ⊕ Result) : List Node → State → State ⊕ Result
  | [], state => .inl state
  | node :: later, state =>
    match visit node state with
    | .inl state => visitAll visit later state
    | .inr result => .inr result

/-! ### Segments -/

/-- From a pointer the links go through some elements to another pointer. -/
def Segment (next : Node → Pointer Node) : Pointer Node → List Node → Pointer Node → Prop
  | start, [], stop => start = stop
  | start, node :: later, stop => start = some node ∧ Segment next (next node) later stop

variable {next next' : Node → Pointer Node} {start stop : Pointer Node} {nodes before after : List Node}

omit [DecidableEq Node] in
theorem segment_append : Segment next start (before ++ after) stop ↔
    ∃ mid, Segment next start before mid ∧ Segment next mid after stop := by
  induction before generalizing start with
  | nil => simp [Segment]
  | cons node later ih => simp [Segment, ih, and_assoc]

omit [DecidableEq Node] in
theorem Segment.congr (same : ∀ node ∈ nodes, next' node = next node) (segment : Segment next start nodes stop) :
    Segment next' start nodes stop := by
  induction nodes generalizing start with
  | nil => exact segment
  | cons node later ih =>
    refine ⟨segment.1, ?_⟩
    rw [same node List.mem_cons_self]
    exact ih (fun other member => same other (List.mem_cons_of_mem _ member)) segment.2

/-- A link outside a segment may change. -/
theorem Segment.update {node : Node} {target : Pointer Node} (segment : Segment next start nodes stop)
    (outside : node ∉ nodes) : Segment (Function.update next node target) start nodes stop :=
  segment.congr fun _ member => Function.update_of_ne (ne_of_mem_of_not_mem member outside) _ _

omit [DecidableEq Node] in
/-- The last link of a segment, and the segment before it. -/
theorem segment_concat {node : Node} : Segment next start (before ++ [node]) stop ↔
    Segment next start before (some node) ∧ next node = stop := by
  rw [segment_append]
  simp [Segment]

/-- A segment with its last link changed. -/
theorem Segment.relink {node : Node} {target : Pointer Node}
    (segment : Segment next start (before ++ [node]) stop) (new : node ∉ before) :
    Segment (Function.update next node target) start (before ++ [node]) target := by
  rw [segment_concat] at segment ⊢
  exact ⟨segment.1.update new, Function.update_self _ _ _⟩

omit [DecidableEq Node] in
/-- Where a segment to NULL starts. -/
theorem Segment.start_eq (segment : Segment next start nodes none) : start = nodes.head? := by
  cases nodes with
  | nil => exact segment
  | cons node later => exact segment.1

omit [DecidableEq Node] in
/-- A segment to NULL is empty just when it starts at NULL. -/
theorem Segment.empty_iff (segment : Segment next start nodes none) : start = none ↔ nodes = [] := by
  rw [segment.start_eq, List.head?_eq_none_iff]

omit [DecidableEq Node] in
/-- Where a segment starts. -/
theorem Segment.first_mem {node : Node} (segment : Segment next start nodes stop) (nonempty : nodes ≠ [])
    (starts : start = some node) : node ∈ nodes := by
  obtain ⟨head, later, rfl⟩ := List.exists_cons_of_ne_nil nonempty
  rw [Option.some.inj (starts.symm.trans segment.1)]
  exact List.mem_cons_self

/-! ### Queues that are lists -/

/-- The place of the last link of a list. -/
def lastPlace : List Node → Place Node
  | [] => .head
  | [node] => .next node
  | _ :: later => lastPlace later

omit [DecidableEq Node] in
theorem lastPlace_concat (node : Node) : lastPlace (before ++ [node]) = .next node := by
  induction before with
  | nil => rfl
  | cons other later ih =>
    rw [List.cons_append]
    cases shape : later ++ [node] with
    | nil => exact absurd shape (by simp)
    | cons _ _ => exact (shape ▸ ih :)

omit [DecidableEq Node] in
theorem lastPlace_append (nonempty : after ≠ []) : lastPlace (before ++ after) = lastPlace after := by
  obtain ⟨rest, node, rfl⟩ := List.eq_nil_or_concat after |>.resolve_left nonempty
  rw [List.concat_eq_append, ← List.append_assoc, lastPlace_concat, lastPlace_concat]

/-- **The queue is a list** of different elements, all allocated. -/
structure Holds (heap : Blocks Node) (queue : Queue Node) (nodes : List Node) : Prop where
  chain : Segment queue.next queue.first nodes none
  last : queue.last = lastPlace nodes
  distinct : nodes.Nodup
  live : ∀ node ∈ nodes, heap node = .live

variable {heap heap' : Blocks Node} {queue : Queue Node} {elm tqelm : Node} {turns : Nat}

omit [DecidableEq Node] in
theorem follow_ok (live : heap elm = .live) : follow heap (some elm) = .ok elm := if_pos live

omit [DecidableEq Node] in
theorem init_holds (next : Node → Pointer Node) : Holds heap (init next) [] :=
  ⟨rfl, rfl, List.nodup_nil, fun _ member => (nomatch member)⟩

omit [DecidableEq Node] in
/-- Other blocks may be allocated and released. -/
theorem Holds.frame (holds : Holds heap queue nodes) (same : ∀ node ∈ nodes, heap' node = heap node) :
    Holds heap' queue nodes :=
  { holds with live := fun node member => (same node member).trans (holds.live node member) }

/-- **Insertion at the tail.** -/
theorem insertTail_ok (holds : Holds heap queue nodes) (live : heap elm = .live) (new : elm ∉ nodes) :
    ∃ queue', insertTail heap queue elm = .ok queue' ∧ Holds heap queue' (nodes ++ [elm]) := by
  have distinct : (nodes ++ [elm]).Nodup := List.concat_eq_append ▸ holds.distinct.concat new
  have allLive : ∀ node ∈ nodes ++ [elm], heap node = .live := by
    intro node member
    rcases List.mem_append.mp member with old | added
    · exact holds.live node old
    · rw [List.mem_singleton.mp added]
      exact live
  unfold insertTail
  rw [follow_ok live]
  rcases List.eq_nil_or_concat nodes with rfl | ⟨rest, node, rfl⟩
  · refine ⟨⟨some elm, .next elm, Function.update queue.next elm none⟩, ?_, ?_, rfl, distinct, allLive⟩
    · show (match queue.last with | .head => _ | .next node => _) = _
      rw [holds.last]
      rfl
    · exact ⟨rfl, Function.update_self _ _ _⟩
  · rw [List.concat_eq_append] at *
    have inside : node ∈ rest ++ [node] := List.mem_append_right _ List.mem_cons_self
    have other : elm ≠ node := (ne_of_mem_of_not_mem inside new).symm
    have fresh : node ∉ rest := fun member =>
      (List.nodup_append.mp holds.distinct).2.2 node member node List.mem_cons_self rfl
    refine ⟨⟨queue.first, .next elm, Function.update (Function.update queue.next elm none) node (some elm)⟩,
      ?_, ?_, (lastPlace_concat elm).symm, distinct, allLive⟩
    · show (match queue.last with | .head => _ | .next node => _) = _
      rw [holds.last, lastPlace_concat]
      show (follow heap (some node)).bind _ = _
      rw [follow_ok (holds.live node inside)]
      rfl
    · refine segment_concat.mpr ⟨(holds.chain.update new).relink fresh, ?_⟩
      show Function.update (Function.update queue.next elm none) node (some elm) elm = none
      rw [Function.update_of_ne other, Function.update_self]

/-- **Insertion after an element.** -/
theorem insertAfter_ok (holds : Holds heap queue (before ++ tqelm :: after)) (live : heap elm = .live)
    (new : elm ∉ before ++ tqelm :: after) : ∃ queue', insertAfter heap queue tqelm elm = .ok queue' ∧
      Holds heap queue' (before ++ tqelm :: elm :: after) := by
  have apart := List.nodup_append.mp holds.distinct
  have inside : tqelm ∈ before ++ tqelm :: after := List.mem_append_right _ List.mem_cons_self
  have fresh : tqelm ∉ before := fun member => apart.2.2 tqelm member tqelm List.mem_cons_self rfl
  have later : tqelm ∉ after := (List.nodup_cons.mp apart.2.1).1
  have other : elm ≠ tqelm := (ne_of_mem_of_not_mem inside new).symm
  have notAfter : elm ∉ after := fun member => new (List.mem_append_right _ (List.mem_cons_of_mem _ member))
  obtain ⟨_, first, rfl, tail⟩ := segment_append.mp holds.chain
  have chain : Segment queue.next queue.first (before ++ [tqelm]) (queue.next tqelm) :=
    segment_concat.mpr ⟨first, rfl⟩
  have newBefore : elm ∉ before ++ [tqelm] := by
    intro member
    rcases List.mem_append.mp member with old | same
    · exact new (List.mem_append_left _ old)
    · exact other (List.mem_singleton.mp same)
  refine ⟨⟨queue.first, if queue.next tqelm = none then .next elm else queue.last,
    Function.update (Function.update queue.next elm (queue.next tqelm)) tqelm (some elm)⟩, ?_, ?_, ?_, ?_, ?_⟩
  · unfold insertAfter
    rw [follow_ok (holds.live tqelm inside), follow_ok live]
    by_cases ends : queue.next tqelm = none
    · simp [Queue.link, ends, bind, Except.bind]
    · simp [Queue.link, ends, bind, Except.bind]
  · rw [List.append_cons]
    refine segment_append.mpr ⟨some elm, (chain.update newBefore).relink fresh, rfl, ?_⟩
    show Segment _ (Function.update (Function.update queue.next elm _) tqelm (some elm) elm) after none
    rw [Function.update_of_ne other, Function.update_self]
    exact (tail.update notAfter).update later
  · show (if _ then _ else _) = _
    by_cases ends : after = []
    · subst ends
      rw [if_pos (tail.empty_iff.mpr rfl), lastPlace_append (List.cons_ne_nil _ _)]
      rfl
    · obtain ⟨node, rest, rfl⟩ := List.exists_cons_of_ne_nil ends
      rw [if_neg (mt tail.empty_iff.mp ends), holds.last, lastPlace_append (List.cons_ne_nil _ _),
        lastPlace_append (List.cons_ne_nil _ _)]
      rfl
  · have all : List.Perm (elm :: (before ++ tqelm :: after)) (before ++ tqelm :: elm :: after) := by
      rw [List.append_cons, List.append_cons before tqelm (elm :: after)]
      exact List.perm_middle.symm
    exact all.nodup_iff.mp (List.nodup_cons.mpr ⟨new, holds.distinct⟩)
  · intro node member
    by_cases same : node = elm
    · rw [same]
      exact live
    · refine holds.live node ?_
      simpa [same] using member

/-- The walk of `STAILQ_REMOVE` finds the element before. -/
theorem previous_ok {prev : Node} (segment : Segment queue.next start (before ++ [prev]) (some elm))
    (absent : elm ∉ before ++ [prev]) (live : ∀ node ∈ before ++ [prev], heap node = .live)
    (enough : before.length < turns) : previous heap queue elm turns start = .ok prev := by
  induction before generalizing start turns with
  | nil =>
    obtain ⟨turns, rfl⟩ := Nat.exists_eq_succ_of_ne_zero (Nat.ne_of_gt enough)
    obtain ⟨rfl, found⟩ := segment
    show (follow heap (some prev)).bind _ = _
    rw [follow_ok (live prev List.mem_cons_self)]
    exact if_pos found
  | cons node later ih =>
    obtain ⟨turns, rfl⟩ := Nat.exists_eq_succ_of_ne_zero (Nat.ne_of_gt (Nat.zero_lt_of_lt enough))
    rw [List.cons_append] at segment
    obtain ⟨rfl, rest⟩ := segment
    show (follow heap (some node)).bind _ = _
    rw [follow_ok (live node List.mem_cons_self)]
    have goesOn : queue.next node ≠ some elm := fun found =>
      absent (List.mem_cons_of_mem _ (rest.first_mem (List.concat_ne_nil _ _) found))
    refine (if_neg goesOn).trans (ih rest (fun member => absent (List.mem_cons_of_mem _ member))
      (fun other member => live other (List.mem_cons_of_mem _ member)) ?_)
    exact Nat.lt_of_succ_lt_succ enough

omit [DecidableEq Node] in
/-- The place of the last link when an element is gone: the link before it, where it was the last. -/
theorem Holds.last_without (holds : Holds heap queue (before ++ elm :: after)) :
    (if queue.next elm = none then lastPlace before else queue.last) = lastPlace (before ++ after) := by
  obtain ⟨_, _, rfl, tail⟩ := segment_append.mp holds.chain
  by_cases empty : after = []
  · rw [if_pos (tail.empty_iff.mpr empty), empty, List.append_nil]
  · obtain ⟨node, rest, rfl⟩ := List.exists_cons_of_ne_nil empty
    rw [if_neg (mt tail.empty_iff.mp empty), holds.last, lastPlace_append (List.cons_ne_nil _ _),
      lastPlace_append (List.cons_ne_nil _ _)]
    rfl

omit [DecidableEq Node] in
theorem Holds.distinct_without (holds : Holds heap queue (before ++ elm :: after)) : (before ++ after).Nodup :=
  holds.distinct.sublist ((List.sublist_cons_self elm after).append_left before)

omit [DecidableEq Node] in
theorem Holds.live_without (holds : Holds heap queue (before ++ elm :: after)) :
    ∀ node ∈ before ++ after, heap node = .live := fun node member =>
  holds.live node (((List.sublist_cons_self elm after).append_left before).subset member)

theorem removeHead_ok (holds : Holds heap queue (elm :: after)) :
    ∃ queue', removeHead heap queue = .ok queue' ∧ Holds heap queue' after := by
  refine ⟨⟨queue.next elm, if queue.next elm = none then .head else queue.last, queue.next⟩, ?_,
    holds.chain.2, @Holds.last_without _ [] after heap queue elm holds, (List.nodup_cons.mp holds.distinct).2,
    fun node member => holds.live node (List.mem_cons_of_mem _ member)⟩
  unfold removeHead
  rw [holds.chain.1, follow_ok (holds.live elm List.mem_cons_self)]
  by_cases ends : queue.next elm = none
  · simp [Queue.link, ends, bind, Except.bind]
  · simp [Queue.link, ends, bind, Except.bind]

theorem removeAfter_ok {prev : Node} (holds : Holds heap queue (before ++ [prev] ++ elm :: after)) :
    ∃ queue', removeAfter heap queue prev = .ok queue' ∧ Holds heap queue' (before ++ [prev] ++ after) := by
  have apart := List.nodup_append.mp holds.distinct
  have inside : prev ∈ before ++ [prev] := List.mem_append_right _ List.mem_cons_self
  have fresh : prev ∉ before := fun member =>
    (List.nodup_append.mp apart.1).2.2 prev member prev List.mem_cons_self rfl
  have notAfter : prev ∉ after := fun member => apart.2.2 prev inside prev (List.mem_cons_of_mem _ member) rfl
  obtain ⟨_, first, rfl, tail⟩ := segment_append.mp holds.chain
  refine ⟨⟨queue.first, if queue.next elm = none then .next prev else queue.last,
    Function.update queue.next prev (queue.next elm)⟩, ?_,
    segment_append.mpr ⟨queue.next elm, first.relink fresh, tail.update notAfter⟩, ?_,
    holds.distinct_without, holds.live_without⟩
  · unfold removeAfter
    rw [follow_ok (holds.live prev (List.mem_append_left _ inside))]
    show (follow heap (queue.next prev)).bind _ = _
    rw [(segment_concat.mp first).2, follow_ok (holds.live elm (List.mem_append_right _ List.mem_cons_self))]
    by_cases ends : queue.next elm = none
    · simp [Queue.link, ends, Except.bind]
    · simp [Queue.link, ends, Except.bind]
  · rw [← holds.last_without, lastPlace_concat]

/-- **Removal**, whether from the head, the middle or the tail. -/
theorem remove_ok (holds : Holds heap queue (before ++ elm :: after)) (enough : before.length ≤ turns) :
    ∃ queue', remove heap turns queue elm = .ok queue' ∧ Holds heap queue' (before ++ after) := by
  obtain ⟨_, first, rfl, tail⟩ := segment_append.mp holds.chain
  unfold remove
  rcases List.eq_nil_or_concat before with rfl | ⟨rest, prev, rfl⟩
  · rw [if_pos (show queue.first = some elm from first)]
    exact removeHead_ok holds
  · rw [List.concat_eq_append] at *
    have absent : elm ∉ rest ++ [prev] := fun member =>
      (List.nodup_append.mp holds.distinct).2.2 elm member elm List.mem_cons_self rfl
    have notFirst : queue.first ≠ some elm := fun found =>
      absent (first.first_mem (List.concat_ne_nil _ _) found)
    rw [if_neg notFirst, previous_ok first absent
      (fun node member => holds.live node (List.mem_append_left _ member))
      (by simpa [Nat.succ_le_iff] using enough)]
    exact removeAfter_ok holds

omit [DecidableEq Node] in
/-- **A walk visits the list in its order.** -/
theorem walk_ok {State Result : Type} (visit : Node → State → State ⊕ Result)
    (segment : Segment queue.next start nodes none) (live : ∀ node ∈ nodes, heap node = .live)
    (enough : nodes.length < turns) (state : State) :
    walk heap queue visit turns start state = .ok (visitAll visit nodes state) := by
  induction nodes generalizing start turns state with
  | nil =>
    obtain ⟨turns, rfl⟩ := Nat.exists_eq_succ_of_ne_zero (Nat.ne_of_gt enough)
    obtain rfl : start = none := segment
    rfl
  | cons node later ih =>
    obtain ⟨turns, rfl⟩ := Nat.exists_eq_succ_of_ne_zero (Nat.ne_of_gt (Nat.zero_lt_of_lt enough))
    obtain ⟨rfl, rest⟩ := segment
    show (follow heap (some node)).bind _ = _
    rw [follow_ok (live node List.mem_cons_self)]
    show (match visit node state with | .inl state => _ | .inr result => _) = _
    rw [visitAll]
    cases visit node state with
    | inl state =>
      exact ih rest (fun other member => live other (List.mem_cons_of_mem _ member))
        (Nat.lt_of_succ_lt_succ enough) state
    | inr result => rfl

end IntelWifi.TailQueue
