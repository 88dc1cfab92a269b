/-
# Lib.Memory -- windows of a memory of cells

A memory is a function from addresses to cells.  `read mem o n` is the window of `n` cells from
`o`, and `write mem o xs` the memory with `xs` stored from `o` on. The lemmas say how windows
split (`read_add`, `take_read`, `drop_read`), what a read after a write sees
(`write_read_apply`, `read_write_self`, `read_write_take`, `read_write_within`,
`read_write_of_disjoint`, `read_write_after`, and `read_write_ends` after writes at both ends of
a window), and how
writes compose: one after the other (`write_append`), of what is already there (`write_read`),
and the read-modify-write of a window around a write (`write_read_around`).

`copy mem d s n` is a cell-by-cell copy of `n` cells from `s` to `d`, first cell first, each
read from the memory as the earlier cells left it.
-/
import Mathlib.Data.List.Range

namespace Memory

set_option autoImplicit false

variable {α : Type} (mem : Nat → α)

/-- The `n` cells from `o`. -/
def read (o n : Nat) : List α := (List.range' o n).map mem

/-- The memory with `xs` stored from `o` on. -/
def write (o : Nat) (xs : List α) : Nat → α :=
  fun a => if o ≤ a then xs[a - o]?.getD (mem a) else mem a

variable {mem}

@[simp] theorem length_read (o n : Nat) : (read mem o n).length = n := by
  simp [read]

@[simp] theorem read_zero (o : Nat) : read mem o 0 = [] := rfl

theorem read_succ (o n : Nat) : read mem o (n + 1) = mem o :: read mem (o + 1) n := by
  simp [read, List.range'_succ]

theorem read_add (o m n : Nat) : read mem o (m + n) = read mem o m ++ read mem (o + m) n := by
  simp only [read, ← List.range'_append, Nat.one_mul, List.map_append]

theorem getElem_read {o n i : Nat} (h : i < (read mem o n).length) :
    (read mem o n)[i] = mem (o + i) := by
  simp [read]

theorem getD_read {o n i : Nat} (d : α) (h : i < n) : (read mem o n).getD i d = mem (o + i) := by
  rw [List.getD_eq_getElem?_getD, List.getElem?_eq_getElem (by simpa using h), Option.getD_some,
    getElem_read]

theorem take_read (o n k : Nat) : (read mem o n).take k = read mem o (min k n) := by
  apply List.ext_getElem
  · simp
  · intro i h _
    simp [getElem_read]

theorem drop_read (o n k : Nat) : (read mem o n).drop k = read mem (o + k) (n - k) := by
  rw [read, ← List.map_drop, List.drop_range', Nat.mul_one, read]

theorem read_congr {mem' : Nat → α} {o n : Nat} (same : ∀ a, o ≤ a → a < o + n → mem' a = mem a) :
    read mem' o n = read mem o n := by
  apply List.ext_getElem
  · simp
  · intro i h _
    simp only [length_read] at h
    rw [getElem_read, getElem_read, same (o + i) (Nat.le_add_right o i) (by omega)]

theorem write_of_lt {o a : Nat} (xs : List α) (below : a < o) : write mem o xs a = mem a := by
  simp [write, Nat.not_le.mpr below]

theorem write_of_le {o a : Nat} {xs : List α} (above : o + xs.length ≤ a) :
    write mem o xs a = mem a := by
  have past : xs.length ≤ a - o := by omega
  simp [write, Nat.le_of_add_right_le above, List.getElem?_eq_none past]

theorem write_apply {o a : Nat} {xs : List α} (within : o ≤ a) (h : a - o < xs.length) :
    write mem o xs a = xs[a - o] := by
  simp [write, within, List.getElem?_eq_getElem h]

theorem write_read_apply (mem' : Nat → α) (o p n a : Nat) :
    write mem o (read mem' p n) a = if o ≤ a ∧ a < o + n then mem' (p + (a - o)) else mem a := by
  by_cases inside : o ≤ a ∧ a < o + n
  · rw [if_pos inside, write_apply inside.1 (by simp only [length_read]; omega), getElem_read]
  · rw [if_neg inside]
    by_cases above : o ≤ a
    · exact write_of_le (by simp only [length_read]; omega)
    · exact write_of_lt _ (by omega)

@[simp] theorem write_nil (o : Nat) : write mem o [] = mem := by
  funext a
  simp [write]

theorem read_write_self (o : Nat) (xs : List α) : read (write mem o xs) o xs.length = xs := by
  apply List.ext_getElem
  · simp
  · intro i h _
    simp only [length_read] at h
    rw [getElem_read, write_apply (Nat.le_add_right o i) (by omega)]
    simp

theorem read_write_take (o : Nat) (xs : List α) {n : Nat} (within : n ≤ xs.length) :
    read (write mem o xs) o n = xs.take n := by
  have whole := congrArg (List.take n) (@read_write_self α mem o xs)
  rwa [take_read, Nat.min_eq_left within] at whole

theorem read_write_of_disjoint {o p n : Nat} {xs : List α}
    (apart : p + n ≤ o ∨ o + xs.length ≤ p) : read (write mem o xs) p n = read mem p n := by
  apply read_congr
  intro a low high
  rcases apart with before | after
  · exact write_of_lt xs (by omega)
  · exact write_of_le (by omega)

theorem read_write_after (p m : Nat) (xs : List α) :
    read (write mem (p + m) xs) p (m + xs.length) = read mem p m ++ xs := by
  rw [read_add, read_write_of_disjoint (Or.inl (Nat.le_refl _)), read_write_self]

theorem read_write_within (o i k : Nat) {xs : List α} (within : i + k ≤ xs.length) :
    read (write mem o xs) (o + i) k = (xs.drop i).take k := by
  have whole := congrArg (List.drop i) (@read_write_take α mem o xs (i + k) within)
  rw [drop_read, Nat.add_sub_cancel_left, List.drop_take, Nat.add_sub_cancel_left] at whole
  exact whole

theorem read_write_ends (n : Nat) (xs ys : List α) (fits : xs.length + ys.length ≤ n) :
    read (write (write mem 0 xs) (n - ys.length) ys) 0 n =
      xs ++ read mem xs.length (n - xs.length - ys.length) ++ ys := by
  obtain ⟨m, rfl⟩ : ∃ m, n = xs.length + m + ys.length := ⟨n - xs.length - ys.length, by omega⟩
  have start : xs.length + m + ys.length - ys.length = 0 + (xs.length + m) := by omega
  have between : xs.length + m + ys.length - xs.length - ys.length = m := by omega
  rw [start, between, read_add, read_write_self, read_write_of_disjoint (Or.inl (Nat.le_refl _)),
    read_add, read_write_self, read_write_of_disjoint (Or.inr (Nat.le_refl _)), Nat.zero_add]

theorem write_read (o n : Nat) : write mem o (read mem o n) = mem := by
  funext a
  by_cases within : o ≤ a ∧ a - o < n
  · rw [write_apply within.1 (by simpa using within.2), getElem_read]
    congr 1
    omega
  · by_cases low : o ≤ a
    · exact write_of_le (by simp; omega)
    · exact write_of_lt _ (by omega)

theorem write_append (o : Nat) (xs ys : List α) :
    write (write mem o xs) (o + xs.length) ys = write mem o (xs ++ ys) := by
  funext a
  by_cases low : o ≤ a
  · by_cases first : a - o < xs.length
    · rw [write_of_lt ys (by omega), write_apply low first,
        write_apply low (by simp; omega), List.getElem_append_left first]
    · by_cases second : a - o < xs.length + ys.length
      · rw [write_apply (by omega) (by omega), write_apply low (by simpa using second),
          List.getElem_append_right (by omega)]
        congr 1
        omega
      · rw [write_of_le (by omega), write_of_le (by omega), write_of_le (by simp; omega)]
  · rw [write_of_lt ys (by omega), write_of_lt xs (by omega), write_of_lt _ (by omega)]

theorem write_read_around (p i k : Nat) {ys : List α} {n : Nat} (length : ys.length = n) :
    write mem p (read mem p i ++ ys ++ read mem (p + i + n) k) = write mem (p + i) ys := by
  subst length
  -- the cells after the change are the same before and after it
  have after : read mem (p + i + ys.length) k =
      read (write mem (p + i) ys) (p + i + ys.length) k :=
    (read_write_of_disjoint (Or.inr (Nat.le_refl _))).symm
  calc write mem p (read mem p i ++ ys ++ read mem (p + i + ys.length) k)
      = write (write (write mem p (read mem p i)) (p + (read mem p i).length) ys)
          (p + (read mem p i ++ ys).length) (read mem (p + i + ys.length) k) := by
        rw [write_append, write_append]
    _ = write (write mem (p + i) ys) (p + i + ys.length) (read mem (p + i + ys.length) k) := by
        rw [write_read, List.length_append, length_read, Nat.add_assoc]
    _ = write mem (p + i) ys := by rw [after, write_read]

/-! ## A forward copy -/

/-- `n` cells copied from `s` to `d`, first cell first. -/
def copy (mem : Nat → α) (d s : Nat) : Nat → Nat → α
  | 0 => mem
  | n + 1 => Function.update (copy mem d s n) (d + n) (copy mem d s n (s + n))

@[simp] theorem copy_zero (d s : Nat) : copy mem d s 0 = mem := rfl

end Memory
