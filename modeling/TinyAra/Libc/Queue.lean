/-
# Libc.Queue -- the queue functions of lib/libc/queue

An `sq_queue_t` is a list linked one way: each entry has a `flink`, the header a `head` and a
`tail`. A `dq_queue_t` adds a `blink` to every entry. The functions edit the links in place;
the model passes the links and the header in and out (`dq_rem`, `dq_addfirst` and
`dq_addlast` are the scheduler's, from `Kernel.Sched.Lists`). The two loops that look for the
entry before a given one visit at most one entry per address.

Each function is the library's `splice` or `unsplice` (`Lib.DoublyLinked`) at the right place,
on the forward links alone for the `sq_*` ones (`sqAddfirst_eq`, ..., `dqRemlast_eq`). From
that, on a queue that lays out a list (`SLinked`, `Linked`):

* `sqAddfirst_spec`, `sqAddlast_spec`, `sqAddafter_spec` and the `dq_*` ones: a new entry goes
  in at the head, at the tail, after or before a member;
* `sqRemfirst_spec`, `sqRemlast_spec`, `sqRemafter_spec` and the `dq_*` ones: the removed
  entry is the head, the tail, the member's successor, and the rest stays laid out;
* `sqRem_spec`, `dqRem_spec`: removing a member leaves the list without it;
* `queue_ops_list_edits`: all fourteen.
-/
import TinyAra.Kernel.Sched.Lists

namespace TinyAra.Libc

open DoublyLinked
open TinyAra.Kernel.Sched (dqRem dqAddlast dqAddfirst)

set_option autoImplicit false

section Queues

variable {α : Type} [DecidableEq α]

/-! ## Singly linked queues -/

/-- `sq_addfirst(node, queue)`. -/
def sqAddfirst (node : α) (flink : α → Option α) (queue : Queue α) : (α → Option α) × Queue α :=
  (Function.update flink node queue.head,
    { head := some node, tail := if queue.head.isNone then some node else queue.tail })

/-- `sq_addlast(node, queue)`; `none` where it stores through a `NULL` tail. -/
def sqAddlast (node : α) (flink : α → Option α) (queue : Queue α) :
    Option ((α → Option α) × Queue α) :=
  let flink := Function.update flink node none
  match queue.head with
  | none => some (flink, { head := some node, tail := some node })
  | some _ => do
      let tail ← queue.tail
      some (Function.update flink tail (some node), { queue with tail := some node })

/-- `sq_addafter(prev, node, queue)`. -/
def sqAddafter (prev node : α) (flink : α → Option α) (queue : Queue α) :
    Option ((α → Option α) × Queue α) :=
  if queue.head = none ∨ some prev = queue.tail then sqAddlast node flink queue
  else some (Function.update (Function.update flink node (flink prev)) prev (some node), queue)

/-- `sq_remfirst(queue)`: the entry it returns, and the links and header after. -/
def sqRemfirst (flink : α → Option α) (queue : Queue α) : Option α × (α → Option α) × Queue α :=
  match queue.head with
  | none => (none, flink, queue)
  | some ret =>
      let head := flink ret
      (some ret, Function.update flink ret none,
        { head := head, tail := if head.isNone then none else queue.tail })

/-- `sq_remafter(node, queue)`. -/
def sqRemafter (node : α) (flink : α → Option α) (queue : Queue α) :
    Option α × (α → Option α) × Queue α :=
  match flink node, queue.head with
  | some ret, some _ =>
      let (flink, queue) : (α → Option α) × Queue α :=
        if queue.tail = some ret then
          (Function.update flink node none, { queue with tail := some node })
        else (Function.update flink node (flink ret), queue)
      (some ret, Function.update flink ret none, queue)
  | ret, _ => (ret, flink, queue)

/-- The loop `for (prev = head; prev && prev->flink != node; prev = prev->flink);` of
`sq_rem` and `sq_remlast`; an entry has no back link to read. -/
def sqPrev [Fintype α] (node : α) (flink : α → Option α) (queue : Queue α) :
    Option (Option α) :=
  Links.walk ⟨flink, fun _ => none⟩ (fun c => decide (flink c ≠ some node)) (Fintype.card α)
    queue.head

/-- `sq_remlast(queue)`. -/
def sqRemlast [Fintype α] (flink : α → Option α) (queue : Queue α) :
    Option (Option α × (α → Option α) × Queue α) :=
  match queue.tail with
  | none => some (none, flink, queue)
  | some ret => do
      let (flink, queue) ← if queue.head = queue.tail then pure (flink, Queue.empty) else do
        let prev ← sqPrev ret flink queue
        pure <| match prev with
          | none => (flink, queue)
          | some prev => (Function.update flink prev none, { queue with tail := some prev })
      some (some ret, Function.update flink ret none, queue)

/-- `sq_rem(node, queue)`; the entry removed from the head keeps its `flink`. -/
def sqRem [Fintype α] (node : α) (flink : α → Option α) (queue : Queue α) :
    Option ((α → Option α) × Queue α) :=
  match queue.head with
  | none => some (flink, queue)
  | some head =>
      if node = head then
        let tail := if some node = queue.tail then none else queue.tail
        some (flink, { head := flink node, tail := tail })
      else do
        let prev ← sqPrev node flink queue
        pure <| match prev with
          | none => (flink, queue)
          | some prev => (sqRemafter prev flink queue).2

/-! ## Doubly linked queues -/

/-- `dq_addafter(prev, node, queue)`; `none` where it stores through a `NULL` `flink`. -/
def dqAddafter (prev node : α) (L : Links α) (queue : Queue α) : Option (Links α × Queue α) :=
  if queue.head = none ∨ some prev = queue.tail then dqAddlast node L queue
  else do
    let next ← L.flink prev
    let L := ((L.setBlink node (some prev)).setFlink node (some next)).setBlink next (some node)
    some (L.setFlink prev (some node), queue)

/-- `dq_addbefore(next, node, queue)`; `none` where it stores through a `NULL` `blink`. -/
def dqAddbefore (next node : α) (L : Links α) (queue : Queue α) : Option (Links α × Queue α) :=
  if queue.head = none ∨ some next = queue.head then some (dqAddfirst node L queue)
  else do
    let prev ← L.blink next
    let L := ((L.setFlink node (some next)).setBlink node (some prev)).setFlink prev (some node)
    some (L.setBlink next (some node), queue)

/-- `dq_remfirst(queue)`. -/
def dqRemfirst (L : Links α) (queue : Queue α) : Option α × Links α × Queue α :=
  match queue.head with
  | none => (none, L, queue)
  | some ret =>
      let (L, queue) : Links α × Queue α :=
        match L.flink ret with
        | none => (L, Queue.empty)
        | some next => (L.setBlink next none, { queue with head := some next })
      (some ret, (L.setFlink ret none).setBlink ret none, queue)

/-- `dq_remlast(queue)`. -/
def dqRemlast (L : Links α) (queue : Queue α) : Option α × Links α × Queue α :=
  match queue.tail with
  | none => (none, L, queue)
  | some ret =>
      let (L, queue) : Links α × Queue α :=
        match L.blink ret with
        | none => (L, Queue.empty)
        | some prev => (L.setFlink prev none, { queue with tail := some prev })
      (some ret, (L.setFlink ret none).setBlink ret none, queue)

end Queues

/-! ## Each function as a splice or an unsplice -/

section Edits

variable {α : Type} [DecidableEq α] {L : Links α} {q : Queue α} {l l₁ l₂ : List α} {x p n : α}

theorem dqAddfirst_eq : dqAddfirst x L q = splice none x q.head L q := by
  obtain ⟨_ | h, t⟩ := q <;> rfl

theorem dqAddlast_eq (ends : q.head = none ↔ q.tail = none) :
    dqAddlast x L q = some (splice q.tail x none L q) := by
  obtain ⟨_ | h, _ | t⟩ := q <;> simp at ends <;> rfl

theorem dqAddafter_eq (nonempty : q.head ≠ none) (inner : some p ≠ q.tail)
    (fwd : L.flink p = some n) : dqAddafter p x L q = some (splice (some p) x (some n) L q) := by
  rw [dqAddafter, if_neg (by simp [nonempty, inner]), fwd]
  rfl

theorem dqAddbefore_eq (nonempty : q.head ≠ none) (inner : some n ≠ q.head)
    (back : L.blink n = some p) : dqAddbefore n x L q = some (splice (some p) x (some n) L q) := by
  rw [dqAddbefore, if_neg (by simp [nonempty, inner]), back]
  rfl

theorem dqRemfirst_eq (hd : q.head = some x) (back : L.blink x = none) :
    dqRemfirst L q = (some x, unsplice x L q) := by
  unfold dqRemfirst unsplice
  rw [hd, back]
  dsimp only
  cases L.flink x <;> rfl

theorem dqRemlast_eq (tl : q.tail = some x) (fwd : L.flink x = none) :
    dqRemlast L q = (some x, unsplice x L q) := by
  unfold dqRemlast unsplice
  rw [tl, fwd]
  dsimp only
  cases L.blink x <;> rfl

/-- What a singly linked queue keeps of a doubly linked one. -/
def forward (s : Links α × Queue α) : (α → Option α) × Queue α := (s.1.flink, s.2)

theorem sqAddfirst_eq : sqAddfirst x L.flink q = forward (dqAddfirst x L q) := by
  obtain ⟨_ | h, t⟩ := q <;> rfl

theorem sqAddlast_eq : sqAddlast x L.flink q = (dqAddlast x L q).map forward := by
  obtain ⟨_ | h, _ | t⟩ := q <;> rfl

theorem sqAddafter_eq (h : Linked L q l) (member : p ∈ l) :
    sqAddafter p x L.flink q = (dqAddafter p x L q).map forward := by
  unfold sqAddafter dqAddafter
  split_ifs with last
  · exact sqAddlast_eq
  · -- `prev` is not the tail, so it has a successor
    obtain ⟨n, fwd⟩ := Option.ne_none_iff_exists'.mp fun e =>
      last (Or.inr ((h.flink_eq_none_iff member).mp e).symm)
    rw [fwd]
    rfl

theorem sqRemfirst_eq : sqRemfirst L.flink q = ((dqRemfirst L q).1, forward (dqRemfirst L q).2) := by
  obtain ⟨_ | h, t⟩ := q
  · rfl
  · unfold sqRemfirst dqRemfirst
    dsimp only
    cases L.flink h <;> rfl

theorem sqRemafter_eq (fwd : L.flink p = some x) (nonempty : q.head ≠ none)
    (back : L.blink x = some p) (last : L.flink x = none ↔ q.tail = some x) :
    sqRemafter p L.flink q = (some x, (unsplice x L q).1.flink, (unsplice x L q).2) := by
  obtain ⟨_ | h, t⟩ := q
  · simp at nonempty
  simp only at last
  unfold sqRemafter unsplice
  rw [fwd, back]
  cases hx : L.flink x with
  | none =>
      dsimp only
      rw [if_pos (last.mp hx)]
      rfl
  | some n =>
      dsimp only
      rw [if_neg (fun e => by simp [last.mpr e] at hx), hx]
      rfl

theorem sqPrev_eq [Fintype α] (h : Linked L q (l₁ ++ x :: l₂)) :
    sqPrev x L.flink q = some l₁.getLast? :=
  h.walk_pred _ h.nodup.length_le_card

theorem sqRemlast_eq [Fintype α] (h : Linked L q l) :
    sqRemlast L.flink q = some ((dqRemlast L q).1, forward (dqRemlast L q).2) := by
  rcases l.eq_nil_or_concat' with rfl | ⟨l, x, rfl⟩
  · have tl : q.tail = none := h.tail
    unfold sqRemlast dqRemlast
    rw [tl]
    rfl
  have h' : Linked L q (l ++ x :: []) := h
  have tl : q.tail = some x := by simp [h.tail]
  unfold sqRemlast dqRemlast
  rw [tl]
  dsimp only
  rw [h'.blink_eq]
  rcases l.eq_nil_or_concat' with rfl | ⟨m, p, rfl⟩
  · have hd : q.head = some x := h.head
    simp only [hd, if_true]
    rfl
  · -- the walk from the head stops at `p`, the entry before the tail
    have back : L.blink x = some p := by simpa using h'.blink_eq
    have hd : q.head ≠ some x := h.head_ne (by simp) back
    rw [if_neg hd, sqPrev_eq h', List.getLast?_concat]
    rfl

end Edits

/-! ## The functions on a queue that lays out a list -/

section Specs

variable {α : Type} [DecidableEq α] {L : Links α} {F : α → Option α} {q : Queue α}
  {l l₁ l₂ : List α} {x p n : α}

theorem dqAddfirst_spec (h : Linked L q l) (fresh : x ∉ l) :
    Linked (dqAddfirst x L q).1 (dqAddfirst x L q).2 (x :: l) := by
  rw [dqAddfirst_eq, h.head]
  exact (show Linked L q ([] ++ l) from h).splice fresh

theorem dqAddlast_spec (h : Linked L q l) (fresh : x ∉ l) :
    ∃ s ∈ dqAddlast x L q, Linked s.1 s.2 (l ++ [x]) := by
  rw [dqAddlast_eq h.ends, h.tail]
  exact ⟨_, rfl, (show Linked L q (l ++ []) by simpa using h).splice (by simpa using fresh)⟩

theorem dqAddafter_spec (h : Linked L q (l₁ ++ p :: l₂)) (fresh : x ∉ l₁ ++ p :: l₂) :
    ∃ s ∈ dqAddafter p x L q, Linked s.1 s.2 (l₁ ++ p :: x :: l₂) := by
  cases l₂ with
  | nil =>
      -- `prev` is the tail: `dq_addlast`
      have tail : some p = q.tail := by simp [h.tail]
      rw [dqAddafter, if_pos (Or.inr tail)]
      simpa using dqAddlast_spec h fresh
  | cons n l₂ =>
      have fwd : L.flink p = some n := by simpa using h.flink_eq
      have inner : some p ≠ q.tail := (h.tail_ne (by simp) fwd).symm
      rw [dqAddafter_eq (by simp [h.head]) inner fwd]
      have h' : Linked L q ((l₁ ++ [p]) ++ n :: l₂) := by simpa using h
      exact ⟨_, rfl, by simpa using h'.splice (x := x) (by simpa using fresh)⟩

theorem dqAddbefore_spec (h : Linked L q (l₁ ++ n :: l₂)) (fresh : x ∉ l₁ ++ n :: l₂) :
    ∃ s ∈ dqAddbefore n x L q, Linked s.1 s.2 (l₁ ++ x :: n :: l₂) := by
  rcases l₁.eq_nil_or_concat' with rfl | ⟨l₁, p, rfl⟩
  · -- `next` is the head: `dq_addfirst`
    have hd : some n = q.head := by simp [h.head]
    rw [dqAddbefore, if_pos (Or.inr hd)]
    exact ⟨_, rfl, dqAddfirst_spec h fresh⟩
  · have back : L.blink n = some p := by simpa using h.blink_eq
    have inner : some n ≠ q.head := (h.head_ne (by simp) back).symm
    rw [dqAddbefore_eq (by simp [h.head]) inner back]
    exact ⟨_, rfl, by simpa using h.splice (x := x) (by simpa using fresh)⟩

theorem dqRemfirst_spec (h : Linked L q l) :
    (dqRemfirst L q).1 = l.head? ∧ Linked (dqRemfirst L q).2.1 (dqRemfirst L q).2.2 l.tail := by
  cases l with
  | nil =>
      have hd : q.head = none := h.head
      simp only [dqRemfirst, hd]
      exact ⟨rfl, h⟩
  | cons x l =>
      have h' : Linked L q ([] ++ x :: l) := h
      rw [dqRemfirst_eq h.head h'.blink_eq]
      exact ⟨rfl, h'.unsplice⟩

theorem dqRemlast_spec (h : Linked L q l) :
    (dqRemlast L q).1 = l.getLast? ∧
      Linked (dqRemlast L q).2.1 (dqRemlast L q).2.2 l.dropLast := by
  rcases l.eq_nil_or_concat' with rfl | ⟨l, x, rfl⟩
  · have tl : q.tail = none := h.tail
    simp only [dqRemlast, tl]
    exact ⟨rfl, h⟩
  · have h' : Linked L q (l ++ x :: []) := h
    rw [dqRemlast_eq (by simp [h.tail]) h'.flink_eq]
    simpa using h'.unsplice

theorem dqRem_spec (h : Linked L q l) (member : x ∈ l) :
    Linked (dqRem x L q).1 (dqRem x L q).2 (l.erase x) := by
  obtain ⟨l₁, l₂, -, rfl, erase⟩ := List.exists_erase_eq member
  rw [erase]
  exact h.unsplice

theorem sqAddfirst_spec (h : SLinked F q l) (fresh : x ∉ l) :
    SLinked (sqAddfirst x F q).1 (sqAddfirst x F q).2 (x :: l) := by
  obtain ⟨B, h⟩ := h
  rw [sqAddfirst_eq (L := ⟨F, B⟩)]
  exact (dqAddfirst_spec h fresh).sLinked

theorem sqAddlast_spec (h : SLinked F q l) (fresh : x ∉ l) :
    ∃ s ∈ sqAddlast x F q, SLinked s.1 s.2 (l ++ [x]) := by
  obtain ⟨B, h⟩ := h
  obtain ⟨s, added, laid⟩ := dqAddlast_spec h fresh
  refine ⟨forward s, ?_, laid.sLinked⟩
  rw [sqAddlast_eq (L := ⟨F, B⟩)]
  exact Option.mem_map_of_mem _ added

theorem sqAddafter_spec (h : SLinked F q (l₁ ++ p :: l₂)) (fresh : x ∉ l₁ ++ p :: l₂) :
    ∃ s ∈ sqAddafter p x F q, SLinked s.1 s.2 (l₁ ++ p :: x :: l₂) := by
  obtain ⟨B, h⟩ := h
  obtain ⟨s, added, laid⟩ := dqAddafter_spec h fresh
  refine ⟨forward s, ?_, laid.sLinked⟩
  rw [sqAddafter_eq (L := ⟨F, B⟩) h (by simp)]
  exact Option.mem_map_of_mem _ added

theorem sqRemfirst_spec (h : SLinked F q l) :
    (sqRemfirst F q).1 = l.head? ∧ SLinked (sqRemfirst F q).2.1 (sqRemfirst F q).2.2 l.tail := by
  obtain ⟨B, h⟩ := h
  rw [sqRemfirst_eq (L := ⟨F, B⟩)]
  exact ⟨(dqRemfirst_spec h).1, (dqRemfirst_spec h).2.sLinked⟩

theorem sqRemlast_spec [Fintype α] (h : SLinked F q l) :
    ∃ s ∈ sqRemlast F q, s.1 = l.getLast? ∧ SLinked s.2.1 s.2.2 l.dropLast := by
  obtain ⟨B, h⟩ := h
  rw [sqRemlast_eq (L := ⟨F, B⟩) h]
  exact ⟨_, rfl, (dqRemlast_spec h).1, (dqRemlast_spec h).2.sLinked⟩

theorem sqRemafter_spec (h : SLinked F q (l₁ ++ p :: l₂)) :
    (sqRemafter p F q).1 = l₂.head? ∧
      SLinked (sqRemafter p F q).2.1 (sqRemafter p F q).2.2 (l₁ ++ p :: l₂.tail) := by
  obtain ⟨B, h⟩ := h
  cases l₂ with
  | nil =>
      -- `node` is the tail: nothing follows it
      have fwd : F p = none := by simpa using h.flink_eq
      simp only [sqRemafter, fwd]
      exact ⟨rfl, B, h⟩
  | cons x l₂ =>
      have h' : Linked ⟨F, B⟩ q ((l₁ ++ [p]) ++ x :: l₂) := by simpa using h
      rw [sqRemafter_eq (L := ⟨F, B⟩) (by simpa using h.flink_eq) (by simp [h.head])
        (by simpa using h'.blink_eq) (h.flink_eq_none_iff (by simp))]
      exact ⟨rfl, by simpa using h'.unsplice.sLinked⟩

theorem sqRem_spec [Fintype α] (h : SLinked F q l) (member : x ∈ l) :
    ∃ s ∈ sqRem x F q, SLinked s.1 s.2 (l.erase x) := by
  obtain ⟨l₁, l₂, -, rfl, erase⟩ := List.exists_erase_eq member
  rw [erase]
  obtain ⟨B, h⟩ := h
  rcases l₁.eq_nil_or_concat' with rfl | ⟨l₁, p, rfl⟩
  · -- `node` is the head: the header moves on, and `node` keeps its `flink`
    have h' : Linked ⟨F, B⟩ q ([] ++ x :: l₂) := h
    have hd : q.head = some x := h.head
    have back : B x = none := h'.blink_eq
    have last : F x = none ↔ q.tail = some x := h.flink_eq_none_iff (by simp)
    have step : sqRem x F q = some (F, (unsplice x ⟨F, B⟩ q).2) := by
      unfold sqRem unsplice
      rw [hd]
      dsimp only
      rw [back, if_pos rfl]
      cases hx : F x with
      | none => rw [if_pos (last.mp hx).symm]
      | some n => rw [if_neg fun e => by simp [last.mpr e.symm] at hx]
    refine ⟨_, step, h'.unsplice.sLinked.congr fun a ha => ?_⟩
    have ax : a ≠ x := fun e => h.not_mem.2 (e ▸ ha)
    simp [unsplice_flink, ax, back]
  · -- otherwise the walk stops at `p`, and `sq_remafter(p)` unlinks `node`
    have back : B x = some p := by simpa using h.blink_eq
    have hd : q.head ≠ some x := h.head_ne (by simp) back
    obtain ⟨first, hfirst⟩ := Option.ne_none_iff_exists'.mp (by simp [h.head] : q.head ≠ none)
    have step : sqRem x F q = some (sqRemafter p F q).2 := by
      unfold sqRem
      rw [hfirst]
      dsimp only
      rw [if_neg (by rintro rfl; exact hd hfirst), sqPrev_eq (L := ⟨F, B⟩) h]
      simp
    have linked : SLinked F q (l₁ ++ p :: x :: l₂) := ⟨B, by simpa using h⟩
    refine ⟨_, step, ?_⟩
    simpa using (sqRemafter_spec linked).2

/-- On a well-formed queue each of the fourteen functions leaves a well-formed queue that lays
out the list with the entry put in or taken out, and returns the entry it took out. -/
theorem queue_ops_list_edits {α : Type} [DecidableEq α] :
    (∀ (F : α → Option α) q l x, SLinked F q l → x ∉ l →
      SLinked (sqAddfirst x F q).1 (sqAddfirst x F q).2 (x :: l) ∧
        ∃ s ∈ sqAddlast x F q, SLinked s.1 s.2 (l ++ [x])) ∧
    (∀ (F : α → Option α) q l₁ l₂ p x, SLinked F q (l₁ ++ p :: l₂) → x ∉ l₁ ++ p :: l₂ →
      ∃ s ∈ sqAddafter p x F q, SLinked s.1 s.2 (l₁ ++ p :: x :: l₂)) ∧
    (∀ (F : α → Option α) q l, SLinked F q l →
      (sqRemfirst F q).1 = l.head? ∧ SLinked (sqRemfirst F q).2.1 (sqRemfirst F q).2.2 l.tail) ∧
    (∀ [Fintype α] (F : α → Option α) q l, SLinked F q l →
      ∃ s ∈ sqRemlast F q, s.1 = l.getLast? ∧ SLinked s.2.1 s.2.2 l.dropLast) ∧
    (∀ (F : α → Option α) q l₁ l₂ p, SLinked F q (l₁ ++ p :: l₂) →
      (sqRemafter p F q).1 = l₂.head? ∧
        SLinked (sqRemafter p F q).2.1 (sqRemafter p F q).2.2 (l₁ ++ p :: l₂.tail)) ∧
    (∀ [Fintype α] (F : α → Option α) q l x, SLinked F q l → x ∈ l →
      ∃ s ∈ sqRem x F q, SLinked s.1 s.2 (l.erase x)) ∧
    (∀ (L : Links α) q l x, Linked L q l → x ∉ l →
      Linked (dqAddfirst x L q).1 (dqAddfirst x L q).2 (x :: l) ∧
        ∃ s ∈ dqAddlast x L q, Linked s.1 s.2 (l ++ [x])) ∧
    (∀ (L : Links α) q l₁ l₂ y x, Linked L q (l₁ ++ y :: l₂) → x ∉ l₁ ++ y :: l₂ →
      (∃ s ∈ dqAddafter y x L q, Linked s.1 s.2 (l₁ ++ y :: x :: l₂)) ∧
        ∃ s ∈ dqAddbefore y x L q, Linked s.1 s.2 (l₁ ++ x :: y :: l₂)) ∧
    (∀ (L : Links α) q l, Linked L q l →
      ((dqRemfirst L q).1 = l.head? ∧ Linked (dqRemfirst L q).2.1 (dqRemfirst L q).2.2 l.tail) ∧
        (dqRemlast L q).1 = l.getLast? ∧
          Linked (dqRemlast L q).2.1 (dqRemlast L q).2.2 l.dropLast) ∧
    (∀ (L : Links α) q l x, Linked L q l → x ∈ l →
      Linked (dqRem x L q).1 (dqRem x L q).2 (l.erase x)) := by
  refine ⟨fun F q l x h fresh => ⟨sqAddfirst_spec h fresh, sqAddlast_spec h fresh⟩,
    fun F q l₁ l₂ p x h fresh => sqAddafter_spec h fresh, fun F q l h => sqRemfirst_spec h,
    fun F q l h => sqRemlast_spec h, fun F q l₁ l₂ p h => sqRemafter_spec h,
    fun F q l x h member => sqRem_spec h member,
    fun L q l x h fresh => ⟨dqAddfirst_spec h fresh, dqAddlast_spec h fresh⟩,
    fun L q l₁ l₂ y x h fresh => ⟨dqAddafter_spec h fresh, dqAddbefore_spec h fresh⟩,
    fun L q l h => ⟨dqRemfirst_spec h, dqRemlast_spec h⟩,
    fun L q l x h member => dqRem_spec h member⟩

end Specs

end TinyAra.Libc
