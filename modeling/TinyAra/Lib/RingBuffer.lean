/-
# Lib.RingBuffer -- a circular buffer with a head and a tail index

A ring of `size` slots holds the items from its `tail` index up to, and not including, its
`head` index. A put writes at `head` and moves it on, unless the slot after `head` is `tail`;
a take reads at `tail` and moves it on, unless the two indices meet. So the ring holds at
most `size - 1` items.

* `contents`: the items held, oldest first, `count` of them;
* `contents_put` and `contents_take`: a put adds its item at the end, a take takes the first;
* `put_eq_none_iff`: a put fails only on a ring that holds `size - 1` items;
* `count_lt`: a ring whose indices are in range holds fewer than `size` items, and
  `Valid.take` and `Valid.push` keep the indices in range;
* `contents_push`: a push, the put that first drops the oldest item of a full ring, adds its
  item at the end.
-/
import Mathlib.Logic.Function.Basic
import Mathlib.Data.List.Range

namespace RingBuffer

set_option autoImplicit false

/-- The slots, the two indices and the number of slots. -/
structure Buf (α : Type) where
  buffer : Nat → α
  head : Nat
  tail : Nat
  size : Nat

variable {α : Type}

def next (size i : Nat) : Nat := if i + 1 ≥ size then 0 else i + 1

/-- The slot `k` places after `i`, going round the ring at most once. -/
def slot (size i k : Nat) : Nat := if i + k < size then i + k else i + k - size

/-- How many items the ring holds: the distance from `tail` on to `head`. -/
def count (r : Buf α) : Nat :=
  if r.tail ≤ r.head then r.head - r.tail else r.head + r.size - r.tail

/-- The items held, oldest first. -/
def contents (r : Buf α) : List α :=
  (List.range (count r)).map fun k => r.buffer (slot r.size r.tail k)

/-- Write at `head` and move it on, unless the ring is full. -/
def put (r : Buf α) (x : α) : Option (Buf α) :=
  if next r.size r.head = r.tail then none
  else some { r with buffer := Function.update r.buffer r.head x, head := next r.size r.head }

/-- Read at `tail` and move it on, unless the ring is empty. -/
def take (r : Buf α) : Option (α × Buf α) :=
  if r.head = r.tail then none else some (r.buffer r.tail, { r with tail := next r.size r.tail })

/-- An empty ring of `size` slots. -/
def empty (buffer : Nat → α) (size : Nat) : Buf α := ⟨buffer, 0, 0, size⟩

/-- Both indices lie in the ring. -/
structure Valid (r : Buf α) : Prop where
  head : r.head < r.size
  tail : r.tail < r.size

variable {r r' : Buf α}

theorem next_lt {size i : Nat} (lt : i < size) : next size i < size := by
  unfold next
  split_ifs <;> omega

theorem count_lt (valid : Valid r) : count r < r.size := by
  obtain ⟨head, tail⟩ := valid
  unfold count
  split <;> omega

@[simp] theorem length_contents (r : Buf α) : (contents r).length = count r := by
  simp [contents]

@[simp] theorem contents_empty (buffer : Nat → α) (size : Nat) :
    contents (empty buffer size) = [] := by
  simp [contents, empty, count]

theorem Valid.empty (buffer : Nat → α) {size : Nat} (positive : 0 < size) :
    Valid (empty buffer size) :=
  ⟨positive, positive⟩

theorem put_eq_none_iff (valid : Valid r) (x : α) :
    put r x = none ↔ count r + 1 = r.size := by
  obtain ⟨head, tail⟩ := valid
  unfold put count next
  split_ifs <;> simp <;> omega

theorem Valid.take (valid : Valid r) {x : α} (taken : take r = some (x, r')) : Valid r' := by
  unfold RingBuffer.take at taken
  split_ifs at taken
  rw [Option.some.injEq, Prod.mk.injEq] at taken
  obtain ⟨-, rfl⟩ := taken
  exact ⟨valid.head, next_lt valid.tail⟩

theorem contents_put (valid : Valid r) {x : α} (stored : put r x = some r') :
    contents r' = contents r ++ [x] := by
  obtain ⟨head, tail⟩ := valid
  unfold put at stored
  split_ifs at stored with room
  rw [Option.some.injEq] at stored
  subst stored
  have more :
      count { r with buffer := Function.update r.buffer r.head x, head := next r.size r.head } =
        count r + 1 := by
    unfold count
    unfold next at room ⊢
    dsimp only
    split_ifs at room ⊢ <;> omega
  unfold contents
  rw [more, List.range_succ, List.map_append, List.map_singleton]
  dsimp only
  congr 1
  · -- the slots held lie before `head`
    apply List.map_congr_left
    intro k mem
    have within : k < count r := List.mem_range.mp mem
    have other : slot r.size r.tail k ≠ r.head := by
      unfold slot
      unfold count at within
      split_ifs at within ⊢ <;> omega
    rw [Function.update_of_ne other]
  · -- and the next one is `head`
    have here : slot r.size r.tail (count r) = r.head := by
      unfold slot count
      split_ifs <;> omega
    rw [here, Function.update_self]

theorem contents_take (valid : Valid r) {x : α} (taken : take r = some (x, r')) :
    contents r = x :: contents r' := by
  obtain ⟨head, tail⟩ := valid
  unfold take at taken
  split_ifs at taken with meet
  rw [Option.some.injEq, Prod.mk.injEq] at taken
  obtain ⟨rfl, rfl⟩ := taken
  have less : count { r with tail := next r.size r.tail } + 1 = count r := by
    unfold count next
    dsimp only
    split_ifs <;> omega
  unfold contents
  rw [← less, List.range_succ_eq_map, List.map_cons, List.map_map]
  congr 1
  · unfold slot
    rw [if_pos (by omega), Nat.add_zero]
  · apply List.map_congr_left
    intro k mem
    have small : k + 1 < r.size := by
      have := List.mem_range.mp mem
      have := count_lt (r := r) ⟨head, tail⟩
      omega
    simp only [Function.comp_apply]
    congr 1
    unfold slot next
    split_ifs <;> omega

/-! ## Overwriting the oldest item -/

/-- Write at `head` and move it on, first moving `tail` on when the ring is full. -/
def push (r : Buf α) (x : α) : Buf α :=
  let r := if next r.size r.head = r.tail then { r with tail := next r.size r.tail } else r
  { r with buffer := Function.update r.buffer r.head x, head := next r.size r.head }

/-- The slots of the items held, oldest first: the indices from `tail` on to `head`. -/
def indices (r : Buf α) : List Nat := (List.range (count r)).map (slot r.size r.tail)

theorem contents_eq_map_indices (r : Buf α) : contents r = (indices r).map r.buffer := by
  rw [indices, List.map_map]
  rfl

@[simp] theorem push_size (r : Buf α) (x : α) : (push r x).size = r.size := by
  unfold push
  split_ifs <;> rfl

theorem next_ne {size i : Nat} (two : 2 ≤ size) (lt : i < size) : next size i ≠ i := by
  unfold next
  split_ifs <;> omega

theorem put_eq_some_push (room : next r.size r.head ≠ r.tail) (x : α) :
    put r x = some (push r x) := by
  simp only [put, push, if_neg room]

theorem push_of_full (valid : Valid r) (two : 2 ≤ r.size) (full : next r.size r.head = r.tail)
    (x : α) : ∃ y r', take r = some (y, r') ∧ put r' x = some (push r x) := by
  -- a full ring holds an item, so `head` and `tail` differ
  have differ : r.head ≠ r.tail := fun same => next_ne two valid.head (same ▸ full)
  refine ⟨r.buffer r.tail, { r with tail := next r.size r.tail }, by simp [take, differ], ?_⟩
  -- after the take, the slot after `head` is the old `tail`, which is not the new one
  have room : r.tail ≠ next r.size r.tail := (next_ne two valid.tail).symm
  simp [put, push, full, room]

theorem Valid.push (valid : Valid r) (x : α) : Valid (push r x) := by
  unfold RingBuffer.push
  split_ifs
  · exact ⟨next_lt valid.head, next_lt valid.tail⟩
  · exact ⟨next_lt valid.head, valid.tail⟩

theorem contents_push (valid : Valid r) (two : 2 ≤ r.size) (x : α) :
    contents (push r x) =
      (if count r + 1 = r.size then (contents r).tail else contents r) ++ [x] := by
  by_cases full : next r.size r.head = r.tail
  · have counted : count r + 1 = r.size := (put_eq_none_iff valid x).mp (by simp [put, full])
    obtain ⟨y, r', taken, stored⟩ := push_of_full valid two full x
    rw [if_pos counted, contents_put (valid.take taken) stored, contents_take valid taken,
      List.tail_cons]
  · have counted : count r + 1 ≠ r.size := fun counted =>
      absurd ((put_eq_none_iff valid x).mpr counted) (by simp [put, full])
    rw [if_neg counted, contents_put valid (put_eq_some_push full x)]

end RingBuffer
