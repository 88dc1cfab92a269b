/-
# Libc.Stdlib.Qsort -- Bentley and McIlroy's `qsort`

`qsort(base, nmemb, size, compar)` over a memory of cells, one cell a byte: the element `k` is
the record of `size` cells at `base + k * size` (`recordsOf`), and `compar` answers for the
contents of two records. Below seven elements it sorts by insertion; otherwise it swaps a
pivot (a median of three, or of three medians) to the front, partitions the rest with the four
pointers `pa <= pb` and `pc <= pd`, keeping the elements equal to the pivot at both ends, swaps
those runs into the middle with `vecswap`, and sorts the parts before and after them, the second
by `goto loop`. A partition that swapped nothing ends in an insertion sort. Pointers are kept
as element indices from `base`, where the source's byte differences are whole records.

* `swap_eq`, `vecswap_eq`: whatever `SWAPINIT` chose, `swap` and `vecswap` exchange two blocks
  of cells (`recordsOf_swap`, `recordsOf_vecswap`: two records, two blocks of records);
* `pivot_lt`: the pivot is an element of the array;
* `qsort` is total: each loop moves its pointers, and both recursive calls sort fewer elements
  (`Cursors.left_lt`, `Cursors.right_lt`).
-/
import Mathlib.Data.PNat.Defs
import TinyAra.Lib.Rearrange

namespace TinyAra.Libc.Stdlib

set_option autoImplicit false

open Rearrange

variable {α : Type}

/-! ## Swapping cells -/

/-- `sizeof(long)`. -/
def sizeofLong : Nat := 4

/-- `SWAPINIT(a, size)`: 2 to swap a cell at a time when `a` or `size` is not a multiple of
`sizeof(long)`, else 0 when an element is one `long` and 1 when it is several. -/
def swapinit (a size : Nat) : Nat :=
  if a % sizeofLong ≠ 0 ∨ size % sizeofLong ≠ 0 then 2 else if size = sizeofLong then 0 else 1

/-- `t = *pi; *pi = *pj; *pj = t` for a `TYPE` of `w` cells. -/
def swapOne (mem : Nat → α) (w pi pj : Nat) : Nat → α :=
  Memory.write (Memory.write mem pi (Memory.read mem pj w)) pj (Memory.read mem pi w)

/-- `swapcode(TYPE, pi, pj, n)` from the count `i = n / sizeof(TYPE)`: the body runs once, and
again while `--i > 0`. -/
def swapcode (mem : Nat → α) (w pi pj : Nat) : Nat → Nat → α
  | i + 2 => swapcode (swapOne mem w pi pj) w (pi + w) (pj + w) (i + 1)
  | _ => swapOne mem w pi pj

/-- `swapfunc(a, b, n, swaptype)`. -/
def swapfunc (mem : Nat → α) (a b n swaptype : Nat) : Nat → α :=
  if swaptype ≤ 1 then swapcode mem sizeofLong a b (n / sizeofLong) else swapcode mem 1 a b n

/-- The `swap(a, b)` macro, for elements of `size` cells. -/
def swap (mem : Nat → α) (size swaptype a b : Nat) : Nat → α :=
  if swaptype = 0 then swapOne mem sizeofLong a b else swapfunc mem a b size swaptype

/-- The `vecswap(a, b, n)` macro. -/
def vecswap (mem : Nat → α) (swaptype a b n : Nat) : Nat → α :=
  if n > 0 then swapfunc mem a b n swaptype else mem

theorem swapOne_eq (mem : Nat → α) {w p q : Nat} (apart : Apart p q w) :
    swapOne mem w p q = mem ∘ blockPerm p q w := by
  funext x
  simp only [swapOne, Function.comp, Memory.write_read_apply]
  unfold Apart at apart
  unfold blockPerm
  split_ifs <;> exact congrArg mem (by omega)

theorem swapcode_eq (mem : Nat → α) {w p q i : Nat} (one : 1 ≤ i) (apart : Apart p q (i * w)) :
    swapcode mem w p q i = mem ∘ blockPerm p q (i * w) := by
  obtain ⟨i, rfl⟩ : ∃ k, i = k + 1 := ⟨i - 1, by omega⟩
  induction i generalizing mem p q with
  | zero =>
    rw [Nat.zero_add, Nat.one_mul] at apart ⊢
    exact swapOne_eq mem apart
  | succ i ih =>
    -- one `TYPE` is swapped, then the loop goes on with the rest of the blocks
    have split : (i + 1 + 1) * w = w + (i + 1) * w := by rw [Nat.add_mul, Nat.one_mul, Nat.add_comm]
    rw [split] at apart ⊢
    have first : Apart p q w := by unfold Apart at apart ⊢; omega
    have rest : Apart (p + w) (q + w) ((i + 1) * w) := by unfold Apart at apart ⊢; omega
    rw [swapcode, ih _ (by omega) rest, swapOne_eq mem first]
    funext k
    exact congrArg mem (blockPerm_comp apart k)

theorem swapfunc_eq (mem : Nat → α) {a b n swaptype : Nat} (pos : 0 < n)
    (longs : swaptype ≤ 1 → n % sizeofLong = 0) (apart : Apart a b n) :
    swapfunc mem a b n swaptype = mem ∘ blockPerm a b n := by
  unfold swapfunc
  split_ifs with wide
  · have whole : n / sizeofLong * sizeofLong = n :=
      Nat.div_mul_cancel (Nat.dvd_of_mod_eq_zero (longs wide))
    have one : 1 ≤ n / sizeofLong := by
      have := longs wide
      unfold sizeofLong at this ⊢
      omega
    rw [swapcode_eq mem one (by rwa [whole]), whole]
  · rw [swapcode_eq mem pos (by rwa [Nat.mul_one]), Nat.mul_one]

theorem swapinit_longs {a size : Nat} (wide : swapinit a size ≤ 1) : size % sizeofLong = 0 := by
  unfold swapinit at wide
  by_contra odd
  rw [if_pos (.inr odd)] at wide
  omega

theorem swapinit_one_long {a size : Nat} (single : swapinit a size = 0) : size = sizeofLong := by
  unfold swapinit at single
  split_ifs at single with odd one
  exact one

theorem swap_eq (mem : Nat → α) (a : Nat) {size p q : Nat} (pos : 0 < size)
    (apart : Apart p q size) : swap mem size (swapinit a size) p q = mem ∘ blockPerm p q size := by
  unfold swap
  split_ifs with single
  · rw [swapinit_one_long single] at apart ⊢
    exact swapOne_eq mem apart
  · exact swapfunc_eq mem pos (fun _ => swapinit_longs (by omega)) apart

theorem vecswap_eq (mem : Nat → α) (a : Nat) {size p q : Nat} (n : Nat)
    (apart : Apart p q (n * size)) :
    vecswap mem (swapinit a size) p q (n * size) = mem ∘ blockPerm p q (n * size) := by
  unfold vecswap
  split_ifs with pos
  · refine swapfunc_eq mem pos (fun wide => ?_) apart
    rw [Nat.mul_mod, swapinit_longs wide, Nat.mul_zero, Nat.zero_mod]
  · rw [show n * size = 0 by omega, blockPerm_zero]
    rfl

theorem recordsOf_swap (mem : Nat → α) (a o : Nat) (size : ℕ+) (i k : Nat) :
    recordsOf (swap mem size (swapinit a size) (o + i * size) (o + k * size)) o size =
      recordsOf mem o size ∘ Equiv.swap i k := by
  have apart : Apart i k 1 := by unfold Apart; omega
  have blocks := apart.scale o size
  rw [Nat.one_mul] at blocks
  have exchanged := recordsOf_comp_blockPerm mem o size i k 1
  rw [Nat.one_mul, blockPerm_one] at exchanged
  rw [swap_eq mem a size.pos blocks, exchanged]

theorem recordsOf_vecswap (mem : Nat → α) (a o : Nat) (size : ℕ+) {i k n : Nat}
    (apart : Apart i k n) :
    recordsOf (vecswap mem (swapinit a size) (o + i * size) (o + k * size) (n * size)) o size =
      recordsOf mem o size ∘ blockPerm i k n := by
  rw [vecswap_eq mem a n (apart.scale o size), recordsOf_comp_blockPerm]

/-! ## Choosing the pivot -/

/-- `med3(a, b, c, compar)`, with `cmp` the answer of `compar` for two elements. -/
def med3 (cmp : Nat → Nat → Int) (a b c : Nat) : Nat :=
  if cmp a b < 0 then (if cmp b c < 0 then b else if cmp a c < 0 then c else a)
  else (if cmp b c > 0 then b else if cmp a c < 0 then a else c)

theorem med3_lt (cmp : Nat → Nat → Int) {a b c n : Nat} (ha : a < n) (hb : b < n) (hc : c < n) :
    med3 cmp a b c < n := by
  unfold med3
  split_ifs <;> assumption

/-- The pivot's index: the middle element; for more than 7 elements the median of the first,
the middle and the last, each of them for more than 40 the median of three `nmemb / 8` apart
(`d = (nmemb / 8) * size` in the source, in cells). -/
def pivot (cmp : Nat → Nat → Int) (nmemb : Nat) : Nat :=
  let pm := nmemb / 2
  if nmemb > 7 then
    let pl := 0
    let pn := nmemb - 1
    if nmemb > 40 then
      let d := nmemb / 8
      let pl := med3 cmp pl (pl + d) (pl + 2 * d)
      let pm := med3 cmp (pm - d) pm (pm + d)
      let pn := med3 cmp (pn - 2 * d) (pn - d) pn
      med3 cmp pl pm pn
    else med3 cmp pl pm pn
  else pm

theorem pivot_lt (cmp : Nat → Nat → Int) {nmemb : Nat} (pos : 0 < nmemb) :
    pivot cmp nmemb < nmemb := by
  unfold pivot
  dsimp only
  split_ifs
  · exact med3_lt cmp (med3_lt cmp (by omega) (by omega) (by omega))
      (med3_lt cmp (by omega) (by omega) (by omega)) (med3_lt cmp (by omega) (by omega) (by omega))
  · exact med3_lt cmp (by omega) (by omega) (by omega)
  · omega

/-! ## The loops -/

/-- The four pointers of the partition loop as indices from `base`: `pa ≤ pb` from the front,
after the pivot at 0, and `pc ≤ pd` from the back, before `nmemb`. -/
structure Cursors (nmemb : Nat) where
  pa : Nat
  pb : Nat
  pc : Nat
  pd : Nat
  one_le_pa : 1 ≤ pa
  pa_le_pb : pa ≤ pb
  pb_le : pb ≤ nmemb
  pc_le_pd : pc ≤ pd
  pd_lt : pd < nmemb

/-- The state of the partition loop: the pointers, the memory and `swap_cnt`. -/
structure Partition (α : Type) (nmemb : Nat) extends Cursors nmemb where
  mem : Nat → α
  swapCnt : Bool

section Loops

variable (compar : List α → List α → Int) (size : ℕ+) (swaptype base : Nat)

/-- The inner loop of the insertion sort from `pl` at element `l`: while the element before it is
greater, the two are swapped and `pl` steps back. -/
def insertionInner (mem : Nat → α) : Nat → Nat → α
  | 0 => mem
  | l + 1 =>
    if compar (recordsOf mem base size l) (recordsOf mem base size (l + 1)) > 0 then
      insertionInner (swap mem size swaptype (base + (l + 1) * size) (base + l * size)) l
    else mem

/-- The insertion sort of `nmemb` elements: the inner loop from every `pm` after the first. -/
def insertionSort (mem : Nat → α) (nmemb : Nat) : Nat → α :=
  (List.range' 1 (nmemb - 1)).foldl (insertionInner compar size swaptype base) mem

variable {nmemb : Nat}

/-- `while (pb <= pc && (r = compar(pb, base)) <= 0)`: `pb` passes an element not greater than
the pivot, after swapping one equal to it to `pa`. -/
def partitionUp (s : Partition α nmemb) : Partition α nmemb :=
  if within : s.pb ≤ s.pc then
    let r := compar (recordsOf s.mem base size s.pb) (recordsOf s.mem base size 0)
    if r ≤ 0 then
      if r = 0 then
        partitionUp
          { s with
            mem := swap s.mem size swaptype (base + s.pa * size) (base + s.pb * size)
            swapCnt := true
            pa := s.pa + 1
            pb := s.pb + 1
            one_le_pa := Nat.le_succ_of_le s.one_le_pa
            pa_le_pb := Nat.succ_le_succ s.pa_le_pb
            pb_le := by have := s.pc_le_pd; have := s.pd_lt; omega }
      else
        partitionUp
          { s with
            pb := s.pb + 1
            pa_le_pb := Nat.le_succ_of_le s.pa_le_pb
            pb_le := by have := s.pc_le_pd; have := s.pd_lt; omega }
    else s
  else s
termination_by s.pc + 1 - s.pb

/-- `while (pb <= pc && (r = compar(pc, base)) >= 0)`: `pc` passes an element not less than the
pivot, after swapping one equal to it to `pd`. -/
def partitionDown (s : Partition α nmemb) : Partition α nmemb :=
  if within : s.pb ≤ s.pc then
    let r := compar (recordsOf s.mem base size s.pc) (recordsOf s.mem base size 0)
    if r ≥ 0 then
      if r = 0 then
        partitionDown
          { s with
            mem := swap s.mem size swaptype (base + s.pc * size) (base + s.pd * size)
            swapCnt := true
            pd := s.pd - 1
            pc := s.pc - 1
            pc_le_pd := by have := s.pc_le_pd; omega
            pd_lt := by have := s.pd_lt; omega }
      else
        partitionDown
          { s with
            pc := s.pc - 1
            pc_le_pd := by have := s.pc_le_pd; omega }
    else s
  else s
termination_by s.pc + 1 - s.pb
decreasing_by
  all_goals
    have := s.one_le_pa
    have := s.pa_le_pb
    omega

/-- `partitionUp` moves `pb` on and leaves `pc`. -/
theorem partitionUp_cursors (s : Partition α nmemb) :
    (partitionUp compar size swaptype base s).pc = s.pc ∧
      s.pb ≤ (partitionUp compar size swaptype base s).pb := by
  fun_induction partitionUp compar size swaptype base s with
  | case1 s within r nonpos zero ih => exact ⟨ih.1, Nat.le_of_succ_le ih.2⟩
  | case2 s within r nonpos nonzero ih => exact ⟨ih.1, Nat.le_of_succ_le ih.2⟩
  | case3 s within r pos => exact ⟨rfl, Nat.le_refl _⟩
  | case4 s past => exact ⟨rfl, Nat.le_refl _⟩

/-- `partitionDown` moves `pc` back and leaves `pb`. -/
theorem partitionDown_cursors (s : Partition α nmemb) :
    (partitionDown compar size swaptype base s).pb = s.pb ∧
      (partitionDown compar size swaptype base s).pc ≤ s.pc := by
  fun_induction partitionDown compar size swaptype base s with
  | case1 s within r nonneg zero ih => exact ⟨ih.1, Nat.le_trans ih.2 (Nat.sub_le _ _)⟩
  | case2 s within r nonneg nonzero ih => exact ⟨ih.1, Nat.le_trans ih.2 (Nat.sub_le _ _)⟩
  | case3 s within r neg => exact ⟨rfl, Nat.le_refl _⟩
  | case4 s past => exact ⟨rfl, Nat.le_refl _⟩

/-- The loop `for (;;)`: both scans, then, unless the pointers crossed, the two elements they
stopped at are swapped and both pointers move on. -/
def partitionLoop (s : Partition α nmemb) : Partition α nmemb :=
  let t := partitionDown compar size swaptype base (partitionUp compar size swaptype base s)
  if crossed : t.pb > t.pc then t
  else
    partitionLoop
      { t with
        mem := swap t.mem size swaptype (base + t.pb * size) (base + t.pc * size)
        swapCnt := true
        pb := t.pb + 1
        pc := t.pc - 1
        pa_le_pb := Nat.le_succ_of_le t.pa_le_pb
        pb_le := by have := t.pc_le_pd; have := t.pd_lt; omega
        pc_le_pd := by have := t.pc_le_pd; omega }
termination_by s.pc + 1 - s.pb
decreasing_by
  have up := partitionUp_cursors compar size swaptype base s
  have down := partitionDown_cursors compar size swaptype base
    (partitionUp compar size swaptype base s)
  have := s.one_le_pa
  have := s.pa_le_pb
  simp only [t] at crossed
  omega

end Loops

/-! ## `qsort` -/

theorem Cursors.left_lt {nmemb : Nat} (c : Cursors nmemb) (base : Nat) (size : ℕ+) :
    (base + c.pb * size - (base + c.pa * size)) / size < nmemb := by
  have := c.one_le_pa
  have := c.pa_le_pb
  have := c.pb_le
  rw [Nat.add_sub_add_left, ← Nat.sub_mul, Nat.mul_div_cancel _ size.pos]
  omega

theorem Cursors.right_lt {nmemb : Nat} (c : Cursors nmemb) (base : Nat) (size : ℕ+) :
    (base + c.pd * size - (base + c.pc * size)) / size < nmemb := by
  have := c.pd_lt
  rw [Nat.add_sub_add_left, ← Nat.sub_mul, Nat.mul_div_cancel _ size.pos]
  omega

/-- The two `vecswap`s that bring the runs equal to the pivot from both ends to the middle.
`min(a, b)` is unparenthesised, but as the whole right side of `r =` it is the minimum. -/
def vecswaps (mem : Nat → α) (size swaptype base pa pb pc pd pn : Nat) : Nat → α :=
  let r := min (pa - base) (pb - pa)
  let mem := vecswap mem swaptype base (pb - r) r
  let r := min (pd - pc) (pn - pd - size)
  vecswap mem swaptype pb (pn - r) r

/-- `qsort(base, nmemb, size, compar)`: the memory it leaves. -/
def qsort (compar : List α → List α → Int) (size : ℕ+) (mem : Nat → α) (base nmemb : Nat) :
    Nat → α :=
  let swaptype := swapinit base size
  if small : nmemb < 7 then insertionSort compar size swaptype base mem nmemb
  else
    let pm := pivot (fun k l => compar (recordsOf mem base size k) (recordsOf mem base size l))
      nmemb
    let mem := swap mem size swaptype base (base + pm * size)
    let start : Partition α nmemb :=
      { mem
        swapCnt := false
        pa := 1
        pb := 1
        pc := nmemb - 1
        pd := nmemb - 1
        one_le_pa := Nat.le_refl 1
        pa_le_pb := Nat.le_refl 1
        pb_le := by omega
        pc_le_pd := Nat.le_refl _
        pd_lt := by omega }
    let s := partitionLoop compar size swaptype base start
    if s.swapCnt = false then insertionSort compar size swaptype base s.mem nmemb
    else
      let pa := base + s.pa * size
      let pb := base + s.pb * size
      let pc := base + s.pc * size
      let pd := base + s.pd * size
      let pn := base + nmemb * size
      let mem := vecswaps s.mem size swaptype base pa pb pc pd pn
      let mem := if pb - pa > size then qsort compar size mem base ((pb - pa) / size) else mem
      -- iterate rather than recurse: `base = pn - r; nmemb = r / size; goto loop`
      if pd - pc > size then qsort compar size mem (pn - (pd - pc)) ((pd - pc) / size) else mem
termination_by nmemb
decreasing_by
  · exact Cursors.left_lt _ base size
  · exact Cursors.right_lt _ base size

end TinyAra.Libc.Stdlib
