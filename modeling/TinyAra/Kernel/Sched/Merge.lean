/-
# Kernel.Sched.Merge -- the prioritized lists, read off their links

`sched_addprioritized` and `sched_mergepending` edit the task lists through the links of
their TCBs (`Kernel.Sched.Lists`). This module reads the lists those links lay out
(`Linked`) before and after each call, and proves that the pointer code does what the list
model says:

* `schedAddprioritized_eq`: the walk of `sched_addprioritized` splits the list at the first
  task of lower priority and the task is spliced in there, `true` when it went in at the
  head;
* `mergeLoop_succ`: one turn of the loop of `sched_mergepending`, with the two branches on
  `rtrprev` told apart only by the task states and the flag;
* `MergeInv`, `MergeInv.search`, `mergeLoop_step` and `mergeLoop_run`: what holds at the top of
  that loop, where its search stops, that one turn keeps it, and that the whole loop ends with
  `g_readytorun` laid out as the stable merge `PriorityList.merge` of the two lists;
* `schedMergepending_linked`: the whole call, when the ready list ends in a task of lower
  priority than every pending one, as it does when it ends in the idle task.

The search of `sched_mergepending` goes on from the task linked in last. A pending task whose
priority is no higher than that of the ready list's last task walks off its end, and the call
stops at `ASSERT(rtrtcb)`.
-/
import TinyAra.Kernel.Sched.Placement

namespace TinyAra.Kernel.Sched

open DoublyLinked

set_option autoImplicit false

variable {T : Type}

/-- Splicing `x` in after `l₁` puts it at the head exactly when `l₁` is empty, which is when
there is no `prev`. -/
theorem getLast?_isNone_iff {l₁ l₂ : List T} {x : T} (fresh : x ∉ l₁) :
    l₁.getLast?.isNone = true ↔ (l₁ ++ x :: l₂).head? = some x := by
  cases l₁ with
  | nil => simp
  | cons a l₁ =>
      have ax : a ≠ x := fun same => fresh (same ▸ List.mem_cons_self)
      simp [ax]

/-- The flag after a splice after `done`: raised when `done` was empty, since the task spliced
in is not the one the loop began with. -/
theorem flag_splice {done rest : List T} {x : T} {ret : Bool} {start : Option T}
    (fresh : start ≠ some x)
    (flag : ret = true ↔ (done ++ rest).head? ≠ start) :
    (ret || done.getLast?.isNone) = true ↔ (done ++ x :: rest).head? ≠ start := by
  cases done with
  | nil => simpa using Ne.symm fresh
  | cons a done => simpa using flag

variable [DecidableEq T] [Fintype T]

/-! ## sched_addprioritized -/

section Addprioritized

variable {st : SchedState T} {list : TaskQueue} {l : List T} {tcb : T}

theorem schedAddprioritized_eq (h : Linked st.links (st.lists list) l)
    (min : schedPriorityMin ≤ st.schedPriority tcb) :
    ∃ l₁ l₂, l = l₁ ++ l₂ ∧ (∀ a ∈ l₁, st.schedPriority tcb ≤ st.schedPriority a) ∧
      (∀ c ∈ l₂.head?, st.schedPriority c < st.schedPriority tcb) ∧
      schedAddprioritized tcb list st =
        some (st.edit list (splice l₁.getLast? tcb l₂.head?), l₁.getLast?.isNone) := by
  have enough : l.length ≤ Fintype.card T := h.nodup.length_le_card
  obtain ⟨l₁, l₂, split, skip, stop, walk⟩ :=
    h.chain.walk_split (fun n => decide (st.schedPriority tcb ≤ st.schedPriority n)) enough
  refine ⟨l₁, l₂, split, fun a ha => by simpa using skip a ha,
    fun c hc => by simpa using stop c hc, ?_⟩
  rw [← h.head] at walk
  unfold schedAddprioritized
  rw [if_neg (not_lt.mpr min)]
  cases l₂ with
  | nil =>
      -- the walk ran off the end: `tcb` goes after the tail
      have tail : (st.lists list).tail = l₁.getLast? := by rw [h.tail, split, List.append_nil]
      simp [walk, tail]
  | cons c l₂ =>
      have back : st.links.blink c = l₁.getLast? := by
        rw [split] at h
        exact h.blink_eq
      simp [walk, back]

end Addprioritized

/-! ## sched_mergepending -/

section Mergepending

theorem mergeLoop_succ {pndtcb found : T} {rtrtcb : Option T} {st : SchedState T}
    (fuel : Nat) (ret : Bool)
    (walk : st.links.walk (fun r => decide (st.schedPriority pndtcb ≤ st.schedPriority r))
      (Fintype.card T) rtrtcb = some (some found)) :
    ∃ st', mergeLoop (fuel + 1) (some pndtcb) rtrtcb ret st =
        mergeLoop fuel (st.links.flink pndtcb) (some pndtcb)
          (ret || (st.links.blink found).isNone) st' ∧
      st'.links = (splice (st.links.blink found) pndtcb (some found) st.links
        (st.lists .readytorun)).1 ∧
      st'.lists .readytorun = (splice (st.links.blink found) pndtcb (some found) st.links
        (st.lists .readytorun)).2 ∧
      st'.schedPriority = st.schedPriority := by
  cases back : st.links.blink found with
  | none =>
      -- `pndtcb` goes in at the head and runs
      refine ⟨((st.edit .readytorun (splice none pndtcb (some found))).setTaskState found
        .taskReadytorun).setTaskState pndtcb .taskRunning, ?_, rfl, by simp, rfl⟩
      simp [mergeLoop, walk, back]
  | some prev =>
      refine ⟨(st.edit .readytorun (splice (some prev) pndtcb (some found))).setTaskState pndtcb
        .taskReadytorun, ?_, rfl, by simp, rfl⟩
      simp [mergeLoop, walk, back]

/-- What holds at the top of the loop of `sched_mergepending` with `pending` still to merge:
`g_readytorun` lays out `done ++ rest` and the search starts at the head of `rest`, whose last
task `z` is below every pending task; the pending tasks lie along their links, apart from the
ready list and by priority; `done ++ merge rest pending` is `target`, the list the loop is to
end with; and the flag says whether the head is another than `start`, the one it began with. -/
structure MergeInv (prio : T → Nat) (z : T) (start : Option T) (target : List T)
    (st : SchedState T) (done rest pending : List T) (ret : Bool) : Prop where
  priority : st.schedPriority = prio
  linked : Linked st.links (st.lists .readytorun) (done ++ rest)
  last : rest.getLast? = some z
  below : ∀ b ∈ pending, prio z < prio b
  chain : ∃ back, Chain st.links back pending none
  apart : ∀ b ∈ pending, b ∉ done ++ rest
  nodup : pending.Nodup
  sorted : ByPriority prio pending
  fresh : ∀ b ∈ pending, start ≠ some b
  merged : done ++ PriorityList.merge prio rest pending = target
  flag : ret = true ↔ (done ++ rest).head? ≠ start

variable {prio : T → Nat} {z : T} {start : Option T} {target : List T}

omit [DecidableEq T] in
theorem MergeInv.search {st : SchedState T} {done rest pending : List T} {pndtcb : T} {ret : Bool}
    (inv : MergeInv prio z start target st done rest (pndtcb :: pending) ret) :
    ∃ C₁ c C₂, rest = C₁ ++ c :: C₂ ∧ (∀ a ∈ C₁, prio pndtcb ≤ prio a) ∧ prio c < prio pndtcb ∧
      st.links.walk (fun r => decide (st.schedPriority pndtcb ≤ st.schedPriority r))
        (Fintype.card T) rest.head? = some (some c) := by
  obtain rfl := inv.priority
  have enough : rest.length ≤ Fintype.card T :=
    ((List.nodup_append.mp inv.linked.nodup).2.1).length_le_card
  obtain ⟨C₁, C₂, split, skip, stop, walk⟩ :=
    ((chain_append _ _ _ _).mp inv.linked.chain).2.walk_split
      (fun r => decide (st.schedPriority pndtcb ≤ st.schedPriority r)) enough
  simp only [decide_eq_true_eq, decide_eq_false_iff_not, not_le] at skip stop
  -- the walk cannot pass `z`, the last task of `rest`
  obtain ⟨c, C₂, rfl⟩ : ∃ c C₂', C₂ = c :: C₂' := by
    refine List.exists_cons_of_ne_nil fun empty => ?_
    have zIn : z ∈ C₁ := by
      rw [split, empty, List.append_nil] at inv
      exact List.mem_of_getLast? inv.last
    exact absurd (skip z zIn) (not_le.mpr (inv.below pndtcb List.mem_cons_self))
  exact ⟨C₁, c, C₂, split, skip, stop c rfl, walk⟩

theorem mergeLoop_step {st : SchedState T} {done rest pending : List T} {pndtcb : T} {ret : Bool}
    (fuel : Nat) (inv : MergeInv prio z start target st done rest (pndtcb :: pending) ret) :
    ∃ st' done' rest' ret', rest'.head? = some pndtcb ∧
      mergeLoop (fuel + 1) (some pndtcb) rest.head? ret st =
        mergeLoop fuel pending.head? (some pndtcb) ret' st' ∧
      MergeInv prio z start target st' done' rest' pending ret' := by
  obtain ⟨C₁, c, C₂, rfl, skip, lower, walk⟩ := inv.search
  obtain rfl := inv.priority
  obtain ⟨back, chain⟩ := inv.chain
  obtain ⟨-, next, chain⟩ := (chain_cons _ _ _ _).mp chain
  rw [Option.or_none] at next
  obtain ⟨pndOut, nodup⟩ := List.nodup_cons.mp inv.nodup
  have sorted := List.pairwise_cons.mp inv.sorted
  have linked : Linked st.links (st.lists .readytorun) ((done ++ C₁) ++ c :: C₂) := by
    simpa using inv.linked
  have pndFresh : pndtcb ∉ (done ++ C₁) ++ c :: C₂ := by
    simpa using inv.apart pndtcb List.mem_cons_self
  have prev : st.links.blink c = (done ++ C₁).getLast? := linked.blink_eq
  obtain ⟨st', loop, links, lists, priority⟩ := mergeLoop_succ fuel ret walk
  rw [prev] at loop links lists
  refine ⟨st', done ++ C₁, pndtcb :: c :: C₂, _, rfl, by rw [loop, next], ?_⟩
  refine ⟨priority, ?_, ?_, fun b hb => inv.below b (List.mem_cons_of_mem _ hb), ?_, ?_, nodup,
    sorted.2, fun b hb => inv.fresh b (List.mem_cons_of_mem _ hb), ?_, ?_⟩
  · rw [links, lists]
    exact linked.splice pndFresh
  · simpa [List.getLast?_cons] using inv.last
  · -- the pending tasks still to merge keep their links
    refine ⟨some pndtcb, ?_⟩
    rw [links]
    refine chain.splice_apart pndOut fun b hb => ?_
    have out := inv.apart b (List.mem_cons_of_mem _ hb)
    refine ⟨fun same => out ?_, fun same => out ?_⟩
    · have mem := List.mem_of_getLast? same.symm
      simp only [List.mem_append, List.mem_cons] at mem ⊢
      tauto
    · simp [Option.some_injective _ same]
  · intro b hb
    have out := inv.apart b (List.mem_cons_of_mem _ hb)
    have ne : b ≠ pndtcb := fun same => pndOut (same ▸ hb)
    simp_all
  · rw [← inv.merged, PriorityList.merge_append_of_le skip, PriorityList.merge_cons_of_lt lower,
      PriorityList.merge_cons_of_le fun b hb => sorted.1 b (List.mem_of_mem_head? hb)]
    simp
  · exact flag_splice (inv.fresh pndtcb List.mem_cons_self) (by simpa using inv.flag)

theorem mergeLoop_run : ∀ (pending : List T) {fuel : Nat} {st : SchedState T}
    {done rest : List T} {ret : Bool}, pending.length ≤ fuel →
    MergeInv prio z start target st done rest pending ret →
    ∃ st' ret', mergeLoop fuel pending.head? rest.head? ret st = some (st', ret') ∧
      Linked st'.links (st'.lists .readytorun) target ∧ (ret' = true ↔ target.head? ≠ start) ∧
      st'.schedPriority = prio
  | [], fuel, st, done, rest, ret, _, inv => by
      have done_rest : done ++ rest = target := by simpa [PriorityList.merge] using inv.merged
      refine ⟨st, ret, by cases fuel <;> rfl, done_rest ▸ inv.linked, done_rest ▸ inv.flag,
        inv.priority⟩
  | _ :: _, 0, _, _, _, _, enough, _ => absurd enough (by simp)
  | pndtcb :: pending, fuel + 1, st, done, rest, ret, enough, inv => by
      obtain ⟨st', done', rest', ret', head, loop, inv'⟩ := mergeLoop_step fuel inv
      rw [List.head?_cons, loop, ← head]
      exact mergeLoop_run pending (by simpa using enough) inv'

variable {st : SchedState T} {r p : List T}

theorem schedMergepending_linked (ready : Linked st.links (st.lists .readytorun) r)
    (pending : Linked st.links (st.lists .pendingtasks) p) (apart : r.Disjoint p)
    (sorted : ByPriority st.schedPriority p) (last : r.getLast? = some z)
    (below : ∀ b ∈ p, st.schedPriority z < st.schedPriority b) :
    ∃ st' ret, schedMergepending st = some (st', ret) ∧
      Linked st'.links (st'.lists .readytorun) (PriorityList.merge st.schedPriority r p) ∧
      st'.lists .pendingtasks = Queue.empty ∧
      (ret = true ↔ (PriorityList.merge st.schedPriority r p).head? ≠ r.head?) ∧
      st'.schedPriority = st.schedPriority := by
  have inv : MergeInv st.schedPriority z r.head? (PriorityList.merge st.schedPriority r p) st
      [] r p false := by
    refine ⟨rfl, by simpa using ready, last, below, ⟨none, pending.chain⟩,
      fun b hb mem => apart (by simpa using mem) hb, pending.nodup, sorted, fun b hb head => ?_,
      by simp, by simp⟩
    exact apart (List.mem_of_mem_head? head) hb
  obtain ⟨st', ret, loop, linked, flag, priority⟩ :=
    mergeLoop_run p pending.nodup.length_le_card inv
  refine ⟨{ st' with lists := Function.update st'.lists .pendingtasks Queue.empty }, ret, ?_,
    by simpa using linked, by simp, flag, priority⟩
  simp [schedMergepending, pending.head, ready.head, loop]

/-- The first pending task walks off the end of a ready list none of whose tasks is below it,
and `sched_mergepending` stops at `ASSERT(rtrtcb)`. -/
theorem schedMergepending_eq_none {b : T} (ready : Linked st.links (st.lists .readytorun) r)
    (head : (st.lists .pendingtasks).head = some b)
    (above : ∀ a ∈ r, st.schedPriority b ≤ st.schedPriority a) : schedMergepending st = none := by
  have walk := ready.chain.walk (fun a => decide (st.schedPriority b ≤ st.schedPriority a))
    ready.nodup.length_le_card
  rw [List.find?_eq_none.mpr (by simpa using above), ← ready.head] at walk
  have : Nonempty T := ⟨b⟩
  obtain ⟨fuel, card⟩ : ∃ fuel, Fintype.card T = fuel + 1 :=
    Nat.exists_eq_succ_of_ne_zero Fintype.card_pos.ne'
  -- the loop's fuel is spent once; the search inside it still has all of it
  have loop : mergeLoop (Fintype.card T) (some b) (st.lists .readytorun).head false st = none := by
    rw [card]
    simp [mergeLoop, walk]
  simp [schedMergepending, head, loop]

end Mergepending

/-! ## Both calls against the list model -/

theorem addprioritized_mergepending_stable :
    (∀ (st : SchedState T) (list : TaskQueue) (l : List T) (tcb : T),
      Linked st.links (st.lists list) l → ByPriority st.schedPriority l → tcb ∉ l →
      schedPriorityMin ≤ st.schedPriority tcb →
      ∃ st' ret l₁ l₂, schedAddprioritized tcb list st = some (st', ret) ∧ l = l₁ ++ l₂ ∧
        Linked st'.links (st'.lists list) (l₁ ++ tcb :: l₂) ∧
        (l₁ ++ tcb :: l₂).Perm (tcb :: l) ∧ ByPriority st.schedPriority (l₁ ++ tcb :: l₂) ∧
        (∀ a ∈ l₁, st.schedPriority tcb ≤ st.schedPriority a) ∧
        (∀ b ∈ l₂, st.schedPriority b < st.schedPriority tcb) ∧
        (ret = true ↔ (l₁ ++ tcb :: l₂).head? = some tcb)) ∧
    (∀ (st : SchedState T) (r p : List T) (z : T),
      Linked st.links (st.lists .readytorun) r → Linked st.links (st.lists .pendingtasks) p →
      r.Disjoint p → ByPriority st.schedPriority r → ByPriority st.schedPriority p →
      r.getLast? = some z → (∀ b ∈ p, st.schedPriority z < st.schedPriority b) →
      ∃ st' ret, schedMergepending st = some (st', ret) ∧
        Linked st'.links (st'.lists .readytorun) (PriorityList.merge st.schedPriority r p) ∧
        PriorityList.Arranged st.schedPriority (r ++ p) (PriorityList.merge st.schedPriority r p) ∧
        st'.lists .pendingtasks = Queue.empty ∧
        (ret = true ↔ (PriorityList.merge st.schedPriority r p).head? ≠ r.head?)) := by
  refine ⟨fun st list l tcb h sorted fresh min => ?_,
    fun st r p z ready pending apart sortedR sortedP last below => ?_⟩
  · obtain ⟨l₁, l₂, rfl, skip, stop, eq⟩ := schedAddprioritized_eq h min
    have inserted := TaskList.schedAddprioritized_append st.schedPriority skip stop
    refine ⟨_, _, l₁, l₂, eq, rfl, by simpa using h.splice fresh, List.perm_middle, ?_, skip, ?_,
      getLast?_isNone_iff fun mem => fresh (List.mem_append_left l₂ mem)⟩
    · rw [← inserted]
      exact sorted.schedAddprioritized tcb
    · -- the rest is by priority and starts below `tcb`
      intro b hb
      obtain ⟨c, l₂, rfl⟩ := List.exists_cons_of_ne_nil (List.ne_nil_of_mem hb)
      have rest := (List.pairwise_append.mp sorted).2.1
      rcases List.mem_cons.mp hb with rfl | hb
      · exact stop b rfl
      · exact lt_of_le_of_lt (List.rel_of_pairwise_cons rest hb) (stop c rfl)
  · obtain ⟨st', ret, loop, linked, empty, flag, -⟩ :=
      schedMergepending_linked ready pending apart sortedP last below
    exact ⟨st', ret, loop, linked, PriorityList.Arranged.merge sortedR sortedP, empty, flag⟩

/-- Task 0 runs alone in `g_readytorun` and task 1 waits in `g_pendingtasks`, both of priority
1; task 2, of priority 0, is in no list. -/
def tieTasks : SchedState (Fin 3) where
  links := ⟨fun _ => none, fun _ => none⟩
  lists := fun q =>
    if q = .readytorun then ⟨some 0, some 0⟩
    else if q = .pendingtasks then ⟨some 1, some 1⟩
    else Queue.empty
  schedPriority := fun t => if t = 2 then 0 else 1
  taskState := fun t => if t = 0 then .taskRunning else if t = 1 then .taskPending else .taskInvalid
  lockcount := fun _ => 0

theorem addprioritized_mergepending_tie :
    Linked tieTasks.links (tieTasks.lists .readytorun) [0] ∧
      Linked tieTasks.links (tieTasks.lists .pendingtasks) [1] ∧
      (2 : Fin 3) ∉ [0] ∧ tieTasks.schedPriority 0 ≤ tieTasks.schedPriority 1 ∧
      schedAddprioritized 2 .readytorun tieTasks = none ∧ schedMergepending tieTasks = none := by
  have ready : Linked tieTasks.links (tieTasks.lists .readytorun) [0] :=
    ⟨by decide, rfl, rfl, by decide⟩
  refine ⟨ready, ⟨by decide, rfl, rfl, by decide⟩, by decide, by decide, rfl, ?_⟩
  exact schedMergepending_eq_none (b := 1) ready rfl (by decide)

/-- Task 0 runs ahead of the idle task 3 in `g_readytorun`, task 1 waits in `g_pendingtasks`,
and task 2 is in no list. -/
def fourTasks : SchedState (Fin 4) where
  links := ⟨fun t => if t = 0 then some 3 else none, fun t => if t = 3 then some 0 else none⟩
  lists := fun q =>
    if q = .readytorun then ⟨some 0, some 3⟩
    else if q = .pendingtasks then ⟨some 1, some 1⟩
    else Queue.empty
  schedPriority := fun t => if t = 0 then 2 else if t = 1 then 5 else if t = 2 then 1 else 0
  taskState := fun t =>
    if t = 0 then .taskRunning
    else if t = 1 then .taskPending
    else if t = 2 then .taskInvalid
    else .taskReadytorun
  lockcount := fun _ => 0

theorem addprioritized_mergepending_stable_fourTasks :
    (∃ st' ret l₁ l₂, schedAddprioritized 2 .readytorun fourTasks = some (st', ret) ∧
        [0, 3] = l₁ ++ l₂ ∧ Linked st'.links (st'.lists .readytorun) (l₁ ++ 2 :: l₂) ∧
        (l₁ ++ 2 :: l₂).Perm (2 :: [0, 3]) ∧
        ByPriority fourTasks.schedPriority (l₁ ++ 2 :: l₂) ∧
        (∀ a ∈ l₁, fourTasks.schedPriority 2 ≤ fourTasks.schedPriority a) ∧
        (∀ b ∈ l₂, fourTasks.schedPriority b < fourTasks.schedPriority 2) ∧
        (ret = true ↔ (l₁ ++ 2 :: l₂).head? = some 2)) ∧
      ∃ st' ret, schedMergepending fourTasks = some (st', ret) ∧
        Linked st'.links (st'.lists .readytorun)
          (PriorityList.merge fourTasks.schedPriority [0, 3] [1]) ∧
        PriorityList.Arranged fourTasks.schedPriority ([0, 3] ++ [1])
          (PriorityList.merge fourTasks.schedPriority [0, 3] [1]) ∧
        st'.lists .pendingtasks = Queue.empty ∧
        (ret = true ↔
          (PriorityList.merge fourTasks.schedPriority [0, 3] [1]).head? ≠ [0, 3].head?) := by
  have ready : Linked fourTasks.links (fourTasks.lists .readytorun) [0, 3] :=
    ⟨by decide, rfl, rfl, by decide⟩
  have sorted : ByPriority fourTasks.schedPriority [0, 3] := by unfold ByPriority; decide
  refine ⟨addprioritized_mergepending_stable.1 fourTasks .readytorun [0, 3] 2 ready sorted
    (by decide) (by decide), addprioritized_mergepending_stable.2 fourTasks [0, 3] [1] 3 ready
    ⟨by decide, rfl, rfl, by decide⟩ (by unfold List.Disjoint; decide) sorted
    (by unfold ByPriority; decide) rfl
    (by decide)⟩

end TinyAra.Kernel.Sched
