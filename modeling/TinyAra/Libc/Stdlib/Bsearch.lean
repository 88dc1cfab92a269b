/-
# Libc.Stdlib.Bsearch -- `bsearch`

`bsearch(key, base, nel, width, compar)` keeps a window of `lim` elements from `lower`: it
compares the key with the element in the middle, returns that element on a match, and otherwise
moves into the half the answer points to and halves `lim`; moving right it first steps past the
middle (`lower = middle + width; lim--`). Addresses are byte offsets from `base`, and `compar`
is the answer `compar(key, base + off)` gives for the element at offset `off`; the model keeps the
offsets it is called at.

* `bsearchLoop_probes`: every call of `compar` is at an element of the window;
* `window_right`, `window_left`: while the elements are partitioned about the key (those it is
  greater than, then those equal to it, then those it is less than), each move keeps every match
  in the window, and `bsearchLoop_result` lifts that to the whole loop;
* `bsearch_exact`: so `bsearch` returns a matching element whenever there is one and `NULL`
  otherwise, and it calls `compar` only at elements of the array, never when `nel = 0`.
-/
import Mathlib.Order.Basic

namespace TinyAra.Libc.Stdlib

set_option autoImplicit false

/-- The loop of `bsearch` over the window of `lim` elements at offset `lower`: the offset of the
element it returns (`none` for `NULL`), and the offsets it calls `compar` at, in order. -/
def bsearchLoop (compar : Nat → Int) (width lower lim : Nat) : Option Nat × List Nat :=
  if lim = 0 then (none, [])
  else
    -- `middle = lower + (lim >> 1) * width`
    let middle := lower + lim / 2 * width
    if compar middle = 0 then (some middle, [middle])
    else if compar middle > 0 then
      -- key > middle: move right, then `lim--` before the loop's `lim >>= 1`
      let rest := bsearchLoop compar width (middle + width) ((lim - 1) / 2)
      (rest.1, middle :: rest.2)
    else
      let rest := bsearchLoop compar width lower (lim / 2)
      (rest.1, middle :: rest.2)
termination_by lim
decreasing_by all_goals omega

/-- `bsearch(key, base, nel, width, compar)`: the loop from the whole array. -/
def bsearch (compar : Nat → Int) (nel width : Nat) : Option Nat × List Nat :=
  bsearchLoop compar width 0 nel

/-! ## Where `compar` is called -/

theorem bsearchLoop_probes (compar : Nat → Int) (width lower lim j : Nat)
    (aligned : lower = j * width) :
    ∀ p ∈ (bsearchLoop compar width lower lim).2,
      ∃ i, j ≤ i ∧ i < j + lim ∧ p = i * width := by
  fun_induction bsearchLoop compar width lower lim generalizing j with
  | case1 => simp
  | case2 lower lim nonempty middle found =>
    intro p mem
    rw [List.mem_singleton.mp mem]
    exact ⟨j + lim / 2, by omega, by omega, by simp only [middle, aligned, Nat.add_mul]⟩
  | case3 lower lim nonempty middle missed greater rest ih =>
    have at_middle : middle = (j + lim / 2) * width := by simp only [middle, aligned, Nat.add_mul]
    intro p mem
    rcases List.mem_cons.mp mem with rfl | later
    · exact ⟨j + lim / 2, by omega, by omega, at_middle⟩
    · -- the right half starts one element past the middle
      obtain ⟨i, low, high, rfl⟩ := ih (j + lim / 2 + 1)
        (by rw [at_middle, Nat.add_one_mul]) p later
      exact ⟨i, by omega, by omega, rfl⟩
  | case4 lower lim nonempty middle missed smaller rest ih =>
    intro p mem
    rcases List.mem_cons.mp mem with rfl | later
    · exact ⟨j + lim / 2, by omega, by omega, by simp only [middle, aligned, Nat.add_mul]⟩
    · obtain ⟨i, low, high, rfl⟩ := ih j aligned p later
      exact ⟨i, low, by omega, rfl⟩

/-! ## A partitioned array -/

/-- The elements are partitioned about the key: first those `compar(key, ·)` finds smaller than
the key, then those equal to it, then those greater. -/
def Partitioned (compar : Nat → Int) (nel width : Nat) : Prop :=
  ∃ lo hi, lo ≤ hi ∧ hi ≤ nel ∧ ∀ i < nel,
    (i < lo → 0 < compar (i * width)) ∧ (lo ≤ i → i < hi → compar (i * width) = 0) ∧
      (hi ≤ i → compar (i * width) < 0)

/-- The window: whole elements `j` to `j + lim` of the array, holding every match. -/
def Window (compar : Nat → Int) (nel width lower lim : Nat) : Prop :=
  ∃ j, lower = j * width ∧ j + lim ≤ nel ∧
    ∀ i < nel, compar (i * width) = 0 → j ≤ i ∧ i < j + lim

section Partitioned

variable {compar : Nat → Int} {nel width : Nat}

theorem Partitioned.pos_of_le (part : Partitioned compar nel width) {i k : Nat} (le : i ≤ k)
    (bound : k < nel) (pos : 0 < compar (k * width)) : 0 < compar (i * width) := by
  obtain ⟨lo, hi, lo_le, hi_le, zones⟩ := part
  have at_k := zones k bound
  have at_i := zones i (by omega)
  by_cases below : i < lo
  · exact at_i.1 below
  · -- `k` is at least `lo`, where no answer is positive
    by_cases mid : k < hi
    · have := at_k.2.1 (by omega) mid
      omega
    · have := at_k.2.2 (by omega)
      omega

theorem Partitioned.neg_of_le (part : Partitioned compar nel width) {i k : Nat} (le : k ≤ i)
    (bound : i < nel) (neg : compar (k * width) < 0) : compar (i * width) < 0 := by
  obtain ⟨lo, hi, lo_le, hi_le, zones⟩ := part
  have at_k := zones k (by omega)
  have at_i := zones i bound
  by_cases above : hi ≤ i
  · exact at_i.2.2 above
  · -- `k` is below `hi`, where no answer is negative
    by_cases low : k < lo
    · have := at_k.1 low
      omega
    · have := at_k.2.1 (by omega) (by omega)
      omega

theorem window_right (part : Partitioned compar nel width) {lower lim : Nat}
    (window : Window compar nel width lower lim) (nonempty : lim ≠ 0)
    (greater : compar (lower + lim / 2 * width) > 0) :
    Window compar nel width (lower + lim / 2 * width + width) ((lim - 1) / 2) := by
  obtain ⟨j, rfl, fits, holds⟩ := window
  have middle : j * width + lim / 2 * width = (j + lim / 2) * width := by rw [Nat.add_mul]
  refine ⟨j + lim / 2 + 1, by rw [Nat.add_one_mul, middle], by omega, ?_⟩
  intro i bound match_i
  obtain ⟨low, high⟩ := holds i bound match_i
  -- a match at or before the middle would be smaller than the key
  have past : j + lim / 2 < i := by
    by_contra before
    have := part.pos_of_le (Nat.le_of_not_lt before) (by omega) (middle ▸ greater)
    omega
  omega

theorem window_left (part : Partitioned compar nel width) {lower lim : Nat}
    (window : Window compar nel width lower lim)
    (smaller : compar (lower + lim / 2 * width) < 0) :
    Window compar nel width lower (lim / 2) := by
  obtain ⟨j, rfl, fits, holds⟩ := window
  have middle : j * width + lim / 2 * width = (j + lim / 2) * width := by rw [Nat.add_mul]
  refine ⟨j, rfl, by omega, ?_⟩
  intro i bound match_i
  obtain ⟨low, high⟩ := holds i bound match_i
  -- a match at or after the middle would be greater than the key
  have before : i < j + lim / 2 := by
    by_contra past
    have := part.neg_of_le (Nat.le_of_not_lt past) bound (middle ▸ smaller)
    omega
  exact ⟨low, before⟩

theorem bsearchLoop_result (part : Partitioned compar nel width) (lower lim : Nat)
    (window : Window compar nel width lower lim) :
    (∀ p, (bsearchLoop compar width lower lim).1 = some p →
      ∃ i < nel, p = i * width ∧ compar p = 0) ∧
    ((bsearchLoop compar width lower lim).1 = none → ∀ i < nel, compar (i * width) ≠ 0) := by
  fun_induction bsearchLoop compar width lower lim with
  | case1 lower =>
    -- an empty window holds no match
    obtain ⟨j, -, -, holds⟩ := window
    refine ⟨fun p found => (nomatch found), fun _ i bound match_i => ?_⟩
    have := holds i bound match_i
    omega
  | case2 lower lim nonempty middle found =>
    obtain ⟨j, rfl, fits, -⟩ := window
    refine ⟨fun p returned => ?_, fun returned => (nomatch returned)⟩
    cases Option.some.inj returned
    exact ⟨j + lim / 2, by omega, by rw [Nat.add_mul], found⟩
  | case3 lower lim nonempty middle missed greater rest ih =>
    exact ih (window_right part window nonempty greater)
  | case4 lower lim nonempty middle missed smaller rest ih =>
    -- `compar` answered neither zero nor positive
    exact ih (window_left part window
      (Int.lt_iff_le_and_ne.mpr ⟨Int.not_lt.mp smaller, missed⟩))

end Partitioned

/-- `bsearch` on an array partitioned about the key returns a matching element if there is one
and `NULL` otherwise, and it calls `compar` only at elements of the array, never when `nel = 0`. -/
theorem bsearch_exact (compar : Nat → Int) (nel width : Nat)
    (part : Partitioned compar nel width) :
    (∀ p, (bsearch compar nel width).1 = some p →
      ∃ i < nel, p = i * width ∧ compar p = 0) ∧
    ((bsearch compar nel width).1 = none ↔ ∀ i < nel, compar (i * width) ≠ 0) ∧
    (∀ p ∈ (bsearch compar nel width).2, ∃ i < nel, p = i * width) ∧
    (nel = 0 → (bsearch compar nel width).2 = []) := by
  have whole : Window compar nel width 0 nel :=
    ⟨0, by rw [Nat.zero_mul], by omega, fun i bound _ => ⟨Nat.zero_le i, by omega⟩⟩
  obtain ⟨found, missing⟩ := bsearchLoop_result part 0 nel whole
  refine ⟨found, ⟨missing, fun none_match => ?_⟩, ?_, ?_⟩
  · -- a returned element would be a match
    cases returned : (bsearch compar nel width).1 with
    | none => rfl
    | some p =>
      obtain ⟨i, bound, rfl, is_match⟩ := found p returned
      exact absurd is_match (none_match i bound)
  · intro p mem
    obtain ⟨i, -, bound, rfl⟩ :=
      bsearchLoop_probes compar width 0 nel 0 (Nat.zero_mul _).symm p mem
    exact ⟨i, by omega, rfl⟩
  · rintro rfl
    rw [bsearch, bsearchLoop, if_pos rfl]

/-- The answers of `compar` for the key 3 in `{1, 2, 3, 3, 5, 8}`, at offsets of 4-byte
elements. -/
def threes (off : Nat) : Int := if off < 8 then 1 else if off < 16 then 0 else -1

theorem bsearch_exact_threes :
    Partitioned threes 6 4 ∧
      (∀ p, (bsearch threes 6 4).1 = some p → ∃ i < 6, p = i * 4 ∧ threes p = 0) ∧
      ((bsearch threes 6 4).1 = none ↔ ∀ i < 6, threes (i * 4) ≠ 0) ∧
      (∀ p ∈ (bsearch threes 6 4).2, ∃ i < 6, p = i * 4) ∧
      (6 = 0 → (bsearch threes 6 4).2 = []) :=
  have part : Partitioned threes 6 4 := ⟨2, 4, by decide, by decide, by decide⟩
  ⟨part, bsearch_exact threes 6 4 part⟩

end TinyAra.Libc.Stdlib
