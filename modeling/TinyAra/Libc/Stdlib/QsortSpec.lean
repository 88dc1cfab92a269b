/-
# Libc.Stdlib.QsortSpec -- `qsort` sorts

For a comparator that is a total preorder on the records' contents (`TotalPreorderCmp`), the
array `qsort` leaves holds the records it was given (`Rearranged`: composed with a permutation
of the indices that fixes every index outside the array), in order (`SortedOn`). The array is
viewed from a fixed origin `o`, with `base = o + j * size`, so that the recursive calls on the
parts are calls on the same view.

* `insertionSort_sorts`: the insertion sort, by the invariant `InsertInv` of its inner loop;
* `partitionLoop_inv`: the partition keeps `PartInv` (the runs equal to the pivot at both ends,
  the less after the front run, the greater before the back run) and ends with `pb = pc + 1`;
* `vecswaps_regions`: after the two `vecswap`s the less, the equal and the greater follow each
  other;
* `qsort_spec`, by strong induction on `nmemb`, and `qsort_sorts`: the records `qsort` leaves
  are a permutation of those it was given, sorted by `compar`.
-/
import TinyAra.Libc.Stdlib.Qsort

namespace TinyAra.Libc.Stdlib

set_option autoImplicit false

open Rearrange

variable {α : Type} {compar : List α → List α → Int} (size : ℕ+)

theorem ptr_add (o j i s : Nat) : o + j * s + i * s = o + (j + i) * s := by
  rw [Nat.add_mul, Nat.add_assoc]

/-- A swap of two records of the array at record `j` from `o`. -/
theorem recordsOf_swap_at (mem : Nat → α) (o j i k : Nat) :
    recordsOf (swap mem size (swapinit (o + j * size) size) (o + j * size + i * size)
      (o + j * size + k * size)) o size = recordsOf mem o size ∘ Equiv.swap (j + i) (j + k) := by
  rw [ptr_add, ptr_add]
  exact recordsOf_swap mem _ o size (j + i) (j + k)

theorem swap_add (j a b k : Nat) : Equiv.swap (j + a) (j + b) (j + k) = j + Equiv.swap a b k := by
  simp only [Equiv.swap_apply_def]
  split_ifs <;> omega

/-! ## Insertion sort -/

section Insertion

/-- The records `j + a` for `a ≤ m` are in order, except that the one at `j + p` may be
behind those before it. -/
def InsertInv (compar : List α → List α → Int) (j m p : Nat) (g : Nat → List α) : Prop :=
  ∀ a b, a < b → b ≤ m → b ≠ p → compar (g (j + a)) (g (j + b)) ≤ 0

variable (lawful : TotalPreorderCmp compar) (o j : Nat)

include lawful in
/-- Swapping the record at `p + 1` with the one before it, which is greater, moves the record
out of place one back. -/
theorem InsertInv.swap {m p : Nat} {g : Nat → List α} (inv : InsertInv compar j m (p + 1) g)
    (within : p + 1 ≤ m) (greater : 0 < compar (g (j + p)) (g (j + (p + 1)))) :
    InsertInv compar j m p (g ∘ Equiv.swap (j + (p + 1)) (j + p)) := by
  intro a b lt le ne
  simp only [Function.comp, swap_add]
  by_cases at_b : b = p + 1
  · subst at_b
    by_cases at_a : a = p
    · subst a
      simp only [Equiv.swap_apply_right, Equiv.swap_apply_left]
      exact lawful.le_of_pos greater
    · rw [Equiv.swap_apply_left, Equiv.swap_apply_of_ne_of_ne (by omega) at_a]
      exact inv a p (by omega) (by omega) (by omega)
  · rw [Equiv.swap_apply_of_ne_of_ne at_b ne]
    by_cases at_a : a = p + 1
    · subst at_a
      rw [Equiv.swap_apply_left]
      exact inv p b (by omega) le at_b
    · by_cases at_a' : a = p
      · subst a
        rw [Equiv.swap_apply_right]
        exact inv (p + 1) b (by omega) le at_b
      · rw [Equiv.swap_apply_of_ne_of_ne at_a at_a']
        exact inv a b lt le at_b

include lawful in
theorem InsertInv.sorted {m p : Nat} {g : Nat → List α} (inv : InsertInv compar j m p g)
    (stop : ∀ q, p = q + 1 → compar (g (j + q)) (g (j + p)) ≤ 0) :
    SortedOn (fun a b => compar a b ≤ 0) j (j + m + 1) g := by
  intro x y low lt high
  obtain ⟨a, rfl⟩ : ∃ a, x = j + a := ⟨x - j, by omega⟩
  obtain ⟨b, rfl⟩ : ∃ b, y = j + b := ⟨y - j, by omega⟩
  by_cases at_b : b = p
  · subst at_b
    obtain ⟨q, rfl⟩ : ∃ q, b = q + 1 := ⟨b - 1, by omega⟩
    by_cases at_a : a = q
    · subst a
      exact stop q rfl
    · exact lawful.trans _ _ _ (inv a q (by omega) (by omega) (by omega)) (stop q rfl)
  · exact inv a b (by omega) (by omega) at_b

include lawful in
theorem insertionInner_sorts {m : Nat} :
    ∀ (p : Nat) (mem : Nat → α), p ≤ m → InsertInv compar j m p (recordsOf mem o size) →
      SortedOn (fun a b => compar a b ≤ 0) j (j + m + 1)
          (recordsOf (insertionInner compar size (swapinit (o + j * size) size) (o + j * size)
            mem p) o size) ∧
        Rearranged j (j + m + 1) (recordsOf mem o size)
          (recordsOf (insertionInner compar size (swapinit (o + j * size) size) (o + j * size)
            mem p) o size)
  | 0, mem, _, inv =>
    ⟨inv.sorted lawful j fun q zero => absurd zero (by omega), Rearranged.refl _ _ _⟩
  | p + 1, mem, within, inv => by
    simp only [insertionInner, recordsOf_add]
    split_ifs with greater
    · -- the two records are swapped and the loop goes on one back
      have moved := recordsOf_swap_at size mem o j (p + 1) p
      obtain ⟨sorted, rearranged⟩ := insertionInner_sorts p _ (by omega)
        (moved ▸ inv.swap lawful j within greater)
      refine ⟨sorted, Rearranged.trans ?_ rearranged⟩
      rw [moved]
      exact rearranged_swap (by omega) (by omega) _
    · refine ⟨inv.sorted lawful j fun q same => ?_, Rearranged.refl _ _ _⟩
      obtain rfl := Nat.add_right_cancel same
      exact Int.not_lt.mp greater

include lawful in
theorem insertionSort_sorts (mem : Nat → α) (nmemb : Nat) :
    SortedOn (fun a b => compar a b ≤ 0) j (j + nmemb)
        (recordsOf (insertionSort compar size (swapinit (o + j * size) size) (o + j * size) mem
          nmemb) o size) ∧
      Rearranged j (j + nmemb) (recordsOf mem o size)
        (recordsOf (insertionSort compar size (swapinit (o + j * size) size) (o + j * size) mem
          nmemb) o size) := by
  -- after the inner loop from each of the elements `1 .. t`, the first `t + 1` are in order
  have first : ∀ t, t + 1 ≤ nmemb →
      SortedOn (fun a b => compar a b ≤ 0) j (j + t + 1)
          (recordsOf ((List.range' 1 t).foldl (insertionInner compar size
            (swapinit (o + j * size) size) (o + j * size)) mem) o size) ∧
        Rearranged j (j + nmemb) (recordsOf mem o size)
          (recordsOf ((List.range' 1 t).foldl (insertionInner compar size
            (swapinit (o + j * size) size) (o + j * size)) mem) o size) := by
    intro t
    induction t with
    | zero => exact fun _ => ⟨fun a b _ _ _ => by omega, Rearranged.refl _ _ _⟩
    | succ t ih =>
      intro within
      obtain ⟨sorted, moved⟩ := ih (by omega)
      rw [List.range'_1_concat, List.foldl_append, List.foldl_cons, List.foldl_nil]
      obtain ⟨sorted', moved'⟩ := insertionInner_sorts size lawful o j (1 + t) _ (Nat.le_refl _)
        fun a b lt le ne => sorted (j + a) (j + b) (by omega) (by omega) (by omega)
      refine ⟨fun a b low lt high => sorted' a b low lt (by omega), ?_⟩
      exact moved.trans (moved'.mono (Nat.le_refl _) (by omega))
  cases nmemb with
  | zero => exact ⟨fun a b _ _ _ => by omega, Rearranged.refl _ _ _⟩
  | succ n =>
    obtain ⟨sorted, moved⟩ := first n (Nat.le_refl _)
    exact ⟨fun a b low lt high => sorted a b low lt (by omega), moved⟩

end Insertion

/-! ## The partition -/

section Partition

theorem swap_comp_add {β : Type} (g : Nat → β) (j a b k : Nat) :
    (g ∘ Equiv.swap (j + a) (j + b)) (j + k) =
      if k = a then g (j + b) else if k = b then g (j + a) else g (j + k) := by
  rw [Function.comp_apply, swap_add, Equiv.swap_apply_def]
  split_ifs <;> rfl

variable (compar) (o j n : Nat) (P : List α) (g₀ : Nat → List α)

/-- The partition loop's invariant for the array of `n` records at `j`, which held `g₀` with the
pivot `P` at its front when the loop started: the loop only moved the records after the pivot;
those before `pa` and after `pd` are equal to the pivot, those from `pa` to `pb` less and those
after `pc` up to `pd` greater. -/
structure PartInv (mem : Nat → α) (pa pb pc pd : Nat) : Prop where
  moved : Rearranged (j + 1) (j + n) g₀ (recordsOf mem o size)
  front : ∀ k, 1 ≤ k → k < pa → compar (recordsOf mem o size (j + k)) P = 0
  less : ∀ k, pa ≤ k → k < pb → compar (recordsOf mem o size (j + k)) P < 0
  greater : ∀ k, pc < k → k ≤ pd → 0 < compar (recordsOf mem o size (j + k)) P
  back : ∀ k, pd < k → k < n → compar (recordsOf mem o size (j + k)) P = 0
  crossing : pb ≤ pc + 1

variable {compar o j n P g₀} {s : Partition α n}

/-- What `compar(p, base)` compares: the record at `p` and the pivot. -/
theorem PartInv.compar_pivot {mem : Nat → α} {pa pb pc pd : Nat}
    (inv : PartInv compar size o j n P g₀ mem pa pb pc pd) (pivot : g₀ j = P) (k : Nat) :
    compar (recordsOf mem (o + j * size) size k) (recordsOf mem (o + j * size) size 0) =
      compar (recordsOf mem o size (j + k)) P := by
  rw [recordsOf_add, recordsOf_add, Nat.add_zero,
    Rearranged.eq_of_outside inv.moved (k := j) (.inl (by omega)), pivot]

/-- `pb` passes a record less than the pivot. -/
theorem PartInv.passLess (inv : PartInv compar size o j n P g₀ s.mem s.pa s.pb s.pc s.pd)
    (within : s.pb ≤ s.pc) (less : compar (recordsOf s.mem o size (j + s.pb)) P < 0) :
    PartInv compar size o j n P g₀ s.mem s.pa (s.pb + 1) s.pc s.pd := by
  refine ⟨inv.moved, inv.front, fun k low high => ?_, inv.greater, inv.back, by omega⟩
  by_cases at_pb : k = s.pb
  · rw [at_pb]
    exact less
  · exact inv.less k low (by omega)

/-- `pb` passes a record equal to the pivot after swapping it to `pa`. -/
theorem PartInv.swapFront (inv : PartInv compar size o j n P g₀ s.mem s.pa s.pb s.pc s.pd)
    (within : s.pb ≤ s.pc) (equal : compar (recordsOf s.mem o size (j + s.pb)) P = 0) :
    PartInv compar size o j n P g₀
      (swap s.mem size (swapinit (o + j * size) size) (o + j * size + s.pa * size)
        (o + j * size + s.pb * size)) (s.pa + 1) (s.pb + 1) s.pc s.pd := by
  have bounds := s.one_le_pa
  have order := s.pa_le_pb
  have below := s.pc_le_pd
  have last := s.pd_lt
  refine ⟨?_, fun k low high => ?_, fun k low high => ?_, fun k low high => ?_,
    fun k low high => ?_, by omega⟩
  all_goals rw [recordsOf_swap_at]
  · exact inv.moved.trans (rearranged_swap (by omega) (by omega) _)
  all_goals rw [swap_comp_add]
  · split_ifs with at_pa
    · exact equal
    · exact absurd high (by omega)
    · exact inv.front k low (by omega)
  · split_ifs with at_pa at_pb
    · exact absurd low (by omega)
    · exact inv.less s.pa (Nat.le_refl _) (by omega)
    · exact inv.less k (by omega) (by omega)
  · rw [if_neg (by omega), if_neg (by omega)]
    exact inv.greater k low high
  · rw [if_neg (by omega), if_neg (by omega)]
    exact inv.back k low high

/-- `pc` passes a record greater than the pivot. -/
theorem PartInv.passGreater (inv : PartInv compar size o j n P g₀ s.mem s.pa s.pb s.pc s.pd)
    (within : s.pb ≤ s.pc) (greater : 0 < compar (recordsOf s.mem o size (j + s.pc)) P) :
    PartInv compar size o j n P g₀ s.mem s.pa s.pb (s.pc - 1) s.pd := by
  refine ⟨inv.moved, inv.front, inv.less, fun k low high => ?_, inv.back, by omega⟩
  by_cases at_pc : k = s.pc
  · rw [at_pc]
    exact greater
  · exact inv.greater k (by omega) high

/-- `pc` passes a record equal to the pivot after swapping it to `pd`. -/
theorem PartInv.swapBack (inv : PartInv compar size o j n P g₀ s.mem s.pa s.pb s.pc s.pd)
    (within : s.pb ≤ s.pc) (equal : compar (recordsOf s.mem o size (j + s.pc)) P = 0) :
    PartInv compar size o j n P g₀
      (swap s.mem size (swapinit (o + j * size) size) (o + j * size + s.pc * size)
        (o + j * size + s.pd * size)) s.pa s.pb (s.pc - 1) (s.pd - 1) := by
  have bounds := s.one_le_pa
  have order := s.pa_le_pb
  have below := s.pc_le_pd
  have last := s.pd_lt
  refine ⟨?_, fun k low high => ?_, fun k low high => ?_, fun k low high => ?_,
    fun k low high => ?_, by omega⟩
  all_goals rw [recordsOf_swap_at]
  · exact inv.moved.trans (rearranged_swap (by omega) (by omega) _)
  all_goals rw [swap_comp_add]
  · rw [if_neg (by omega), if_neg (by omega)]
    exact inv.front k low high
  · rw [if_neg (by omega), if_neg (by omega)]
    exact inv.less k low high
  · split_ifs with at_pc at_pd
    · exact inv.greater s.pd (by omega) (Nat.le_refl _)
    · exact absurd high (by omega)
    · exact inv.greater k (by omega) (by omega)
  · split_ifs with at_pc at_pd
    · rw [show s.pd = s.pc by omega]
      exact equal
    · exact equal
    · exact inv.back k (by omega) high

/-- The two records the scans stopped at, greater and less than the pivot, are swapped. -/
theorem PartInv.exchange (inv : PartInv compar size o j n P g₀ s.mem s.pa s.pb s.pc s.pd)
    (apart : s.pb < s.pc) (greater : 0 < compar (recordsOf s.mem o size (j + s.pb)) P)
    (less : compar (recordsOf s.mem o size (j + s.pc)) P < 0) :
    PartInv compar size o j n P g₀
      (swap s.mem size (swapinit (o + j * size) size) (o + j * size + s.pb * size)
        (o + j * size + s.pc * size)) s.pa (s.pb + 1) (s.pc - 1) s.pd := by
  have bounds := s.one_le_pa
  have order := s.pa_le_pb
  have below := s.pc_le_pd
  have last := s.pd_lt
  refine ⟨?_, fun k low high => ?_, fun k low high => ?_, fun k low high => ?_,
    fun k low high => ?_, by omega⟩
  all_goals rw [recordsOf_swap_at]
  · exact inv.moved.trans (rearranged_swap (by omega) (by omega) _)
  all_goals rw [swap_comp_add]
  · rw [if_neg (by omega), if_neg (by omega)]
    exact inv.front k low high
  · split_ifs with at_pb
    · exact less
    · exact absurd high (by omega)
    · exact inv.less k low (by omega)
  · split_ifs with at_pb at_pc
    · exact absurd low (by omega)
    · exact greater
    · exact inv.greater k (by omega) high
  · rw [if_neg (by omega), if_neg (by omega)]
    exact inv.back k low high

/-- `partitionUp` keeps the invariant, and where it stops before `pc` the record at `pb` is
greater than the pivot. -/
theorem partitionUp_inv (pivot : g₀ j = P) (s : Partition α n) :
    PartInv compar size o j n P g₀ s.mem s.pa s.pb s.pc s.pd →
      let t := partitionUp compar size (swapinit (o + j * size) size) (o + j * size) s
      PartInv compar size o j n P g₀ t.mem t.pa t.pb t.pc t.pd ∧
        (t.pb ≤ t.pc → 0 < compar (recordsOf t.mem o size (j + t.pb)) P) := by
  fun_induction partitionUp compar size (swapinit (o + j * size) size) (o + j * size) s with
  | case1 s within r nonpos zero ih =>
    intro inv
    have equal : compar (recordsOf s.mem o size (j + s.pb)) P = 0 := by
      rw [← inv.compar_pivot size pivot]
      exact zero
    exact ih (inv.swapFront size within equal)
  | case2 s within r nonpos nonzero ih =>
    intro inv
    have less : compar (recordsOf s.mem o size (j + s.pb)) P < 0 := by
      rw [← inv.compar_pivot size pivot]
      exact lt_of_le_of_ne nonpos nonzero
    exact ih (inv.passLess size within less)
  | case3 s within r pos =>
    intro inv
    refine ⟨inv, fun _ => ?_⟩
    rw [← inv.compar_pivot size pivot]
    exact Int.lt_of_not_ge pos
  | case4 s past => exact fun inv => ⟨inv, fun within => absurd within past⟩

/-- `partitionDown` keeps the invariant; started where `partitionUp` stopped, it stops with the
pointers crossed or apart, at a record greater and one less than the pivot. -/
theorem partitionDown_inv (pivot : g₀ j = P) (s : Partition α n) :
    PartInv compar size o j n P g₀ s.mem s.pa s.pb s.pc s.pd →
      (s.pb ≤ s.pc → 0 < compar (recordsOf s.mem o size (j + s.pb)) P) →
      let t := partitionDown compar size (swapinit (o + j * size) size) (o + j * size) s
      PartInv compar size o j n P g₀ t.mem t.pa t.pb t.pc t.pd ∧
        (t.pb ≤ t.pc → t.pb < t.pc ∧ 0 < compar (recordsOf t.mem o size (j + t.pb)) P ∧
          compar (recordsOf t.mem o size (j + t.pc)) P < 0) := by
  fun_induction partitionDown compar size (swapinit (o + j * size) size) (o + j * size) s with
  | case1 s within r nonneg zero ih =>
    intro inv stopped
    have equal : compar (recordsOf s.mem o size (j + s.pc)) P = 0 := by
      rw [← inv.compar_pivot size pivot]
      exact zero
    -- the record at `pb` is greater than the pivot, so it is not the one swapped
    have apart : s.pb < s.pc := by
      by_contra same
      have := stopped within
      rw [show s.pb = s.pc by omega, equal] at this
      exact absurd this (by decide)
    refine ih (inv.swapBack size within equal) fun _ => ?_
    have below := s.pc_le_pd
    dsimp only
    rw [recordsOf_swap_at, swap_comp_add, if_neg (by omega), if_neg (by omega)]
    exact stopped within
  | case2 s within r nonneg nonzero ih =>
    intro inv stopped
    have greater : 0 < compar (recordsOf s.mem o size (j + s.pc)) P := by
      rw [← inv.compar_pivot size pivot]
      exact lt_of_le_of_ne nonneg (Ne.symm nonzero)
    exact ih (inv.passGreater size within greater) fun _ => stopped within
  | case3 s within r neg =>
    intro inv stopped
    have less : compar (recordsOf s.mem o size (j + s.pc)) P < 0 := by
      rw [← inv.compar_pivot size pivot]
      exact Int.lt_of_not_ge neg
    refine ⟨inv, fun _ => ⟨?_, stopped within, less⟩⟩
    by_contra same
    have := stopped within
    rw [show s.pb = s.pc by omega] at this
    omega
  | case4 s past => exact fun inv _ => ⟨inv, fun within => absurd within past⟩

theorem partitionLoop_inv (pivot : g₀ j = P) (s : Partition α n) :
    PartInv compar size o j n P g₀ s.mem s.pa s.pb s.pc s.pd →
      let t := partitionLoop compar size (swapinit (o + j * size) size) (o + j * size) s
      PartInv compar size o j n P g₀ t.mem t.pa t.pb t.pc t.pd ∧ t.pb = t.pc + 1 := by
  fun_induction partitionLoop compar size (swapinit (o + j * size) size) (o + j * size) s with
  | case1 s t crossed =>
    intro inv
    obtain ⟨up, stopped⟩ := partitionUp_inv size pivot s inv
    obtain ⟨down, -⟩ := partitionDown_inv size pivot _ up stopped
    have cross := down.crossing
    simp only [t] at crossed ⊢
    exact ⟨down, by omega⟩
  | case2 s t crossed ih =>
    intro inv
    obtain ⟨up, stopped⟩ := partitionUp_inv size pivot s inv
    obtain ⟨down, stops⟩ := partitionDown_inv size pivot _ up stopped
    obtain ⟨apart, greater, less⟩ := stops (Nat.le_of_not_gt crossed)
    exact ih (down.exchange size apart greater less)

end Partition

/-! ## Bringing the runs equal to the pivot to the middle -/

/-- Read as records, the two `vecswap`s of the array of `n` records at `j` with the pointers at
`a ≤ b` and `c ≤ d`: the exchange of the shorter of `[0, a)` and `[a, b)` with the far end of the
other, then the same for `[b, d]` and `(d, n)`. -/
theorem recordsOf_vecswaps (mem : Nat → α) (o j n a b c d : Nat) (order : a ≤ b)
    (meet : b = c + 1) (below : c ≤ d) (last : d < n) :
    recordsOf (vecswaps mem size (swapinit (o + j * size) size) (o + j * size)
        (o + j * size + a * size) (o + j * size + b * size) (o + j * size + c * size)
        (o + j * size + d * size) (o + j * size + n * size)) o size =
      (recordsOf mem o size ∘ blockPerm j (j + (b - min a (b - a))) (min a (b - a))) ∘
        blockPerm (j + b) (j + (n - min (d - c) (n - d - 1))) (min (d - c) (n - d - 1)) := by
  have first : min (o + j * size + a * size - (o + j * size))
      (o + j * size + b * size - (o + j * size + a * size)) = min a (b - a) * size := by
    rw [Nat.add_sub_cancel_left, Nat.add_sub_add_left, ← Nat.sub_mul, Nat.mul_min_mul_right]
  have second : min (o + j * size + d * size - (o + j * size + c * size))
      (o + j * size + n * size - (o + j * size + d * size) - size) =
        min (d - c) (n - d - 1) * size := by
    rw [Nat.add_sub_add_left, Nat.add_sub_add_left, ← Nat.sub_mul, ← Nat.sub_mul,
      ← Nat.sub_one_mul, Nat.mul_min_mul_right]
  -- each `vecswap` exchanges blocks of whole records of the array
  have at_first : o + j * size + b * size - min a (b - a) * size =
      o + (j + (b - min a (b - a))) * size := by
    have := Nat.sub_mul b (min a (b - a)) size
    have := Nat.mul_le_mul_right (size : Nat) (show min a (b - a) ≤ b by omega)
    rw [Nat.add_mul]
    omega
  have at_second : o + j * size + n * size - min (d - c) (n - d - 1) * size =
      o + (j + (n - min (d - c) (n - d - 1))) * size := by
    have := Nat.sub_mul n (min (d - c) (n - d - 1)) size
    have := Nat.mul_le_mul_right (size : Nat) (show min (d - c) (n - d - 1) ≤ n by omega)
    rw [Nat.add_mul]
    omega
  simp only [vecswaps, first, second, at_first, at_second]
  rw [ptr_add o j b, recordsOf_vecswap _ _ o size (by unfold Apart; omega),
    recordsOf_vecswap mem _ o size (by unfold Apart; omega)]

theorem vecswaps_regions (lawful : TotalPreorderCmp compar) {o j n : Nat} {P : List α}
    {g₀ : Nat → List α} (pivot : g₀ j = P) {t : Partition α n}
    (inv : PartInv compar size o j n P g₀ t.mem t.pa t.pb t.pc t.pd) (meet : t.pb = t.pc + 1) :
    let g := recordsOf (vecswaps t.mem size (swapinit (o + j * size) size) (o + j * size)
        (o + j * size + t.pa * size) (o + j * size + t.pb * size) (o + j * size + t.pc * size)
        (o + j * size + t.pd * size) (o + j * size + n * size)) o size
    Rearranged j (j + n) (recordsOf t.mem o size) g ∧
      (∀ k, j ≤ k → k < j + (t.pb - t.pa) → compar (g k) P < 0) ∧
      (∀ k, j + (t.pb - t.pa) ≤ k → k < j + n - (t.pd - t.pc) → compar (g k) P = 0) ∧
      (∀ k, j + n - (t.pd - t.pc) ≤ k → k < j + n → 0 < compar (g k) P) := by
  intro g
  have one := t.one_le_pa
  have order := t.pa_le_pb
  have below := t.pc_le_pd
  have last := t.pd_lt
  have records := recordsOf_vecswaps size t.mem o j n t.pa t.pb t.pc t.pd order meet below last
  rw [show j + (t.pb - min t.pa (t.pb - t.pa)) = j + t.pb - min t.pa (t.pb - t.pa) by omega,
    show j + (n - min (t.pd - t.pc) (n - t.pd - 1)) = j + n - min (t.pd - t.pc) (n - t.pd - 1)
      by omega] at records
  -- before: the pivot and the records equal to it on `[j, j + pa)`, the less on `[j + pa, j + pb)`
  have front : ∀ k, j ≤ k → k < j + t.pa → compar (recordsOf t.mem o size k) P = 0 := by
    intro k low high
    by_cases at_pivot : k = j
    · rw [at_pivot, inv.moved.eq_of_outside (k := j) (.inl (by omega)), pivot]
      exact lawful.self P
    · obtain ⟨i, rfl⟩ : ∃ i, k = j + i := ⟨k - j, by omega⟩
      exact inv.front i (by omega) (by omega)
  have less : ∀ k, j + t.pa ≤ k → k < j + t.pb → compar (recordsOf t.mem o size k) P < 0 := by
    intro k low high
    obtain ⟨i, rfl⟩ : ∃ i, k = j + i := ⟨k - j, by omega⟩
    exact inv.less i (by omega) (by omega)
  obtain ⟨moved₁, less₁, equal₁⟩ := @exchange_regions _ j (j + t.pb) (recordsOf t.mem o size)
    (fun x => compar x P = 0) (fun x => compar x P < 0) (j + t.pa) (min t.pa (t.pb - t.pa))
    ⟨by omega, by omega⟩ (by omega) front less
  -- the first exchange leaves the greater on `[j + pb, j + pd]` and the equal after them
  have greater : ∀ k, j + t.pb ≤ k → k < j + t.pd + 1 →
      0 < compar ((recordsOf t.mem o size ∘
        blockPerm j (j + t.pb - min t.pa (t.pb - t.pa)) (min t.pa (t.pb - t.pa))) k) P := by
    intro k low high
    rw [moved₁.eq_of_outside (.inr low)]
    obtain ⟨i, rfl⟩ : ∃ i, k = j + i := ⟨k - j, by omega⟩
    exact inv.greater i (by omega) (by omega)
  have back : ∀ k, j + t.pd + 1 ≤ k → k < j + n →
      compar ((recordsOf t.mem o size ∘
        blockPerm j (j + t.pb - min t.pa (t.pb - t.pa)) (min t.pa (t.pb - t.pa))) k) P = 0 := by
    intro k low high
    rw [moved₁.eq_of_outside (.inr (by omega))]
    obtain ⟨i, rfl⟩ : ∃ i, k = j + i := ⟨k - j, by omega⟩
    exact inv.back i (by omega) (by omega)
  obtain ⟨moved₂, equal₂, greater₂⟩ := @exchange_regions _ (j + t.pb) (j + n) _
    (fun x => 0 < compar x P) (fun x => compar x P = 0) (j + t.pd + 1)
    (min (t.pd - t.pc) (n - t.pd - 1)) ⟨by omega, by omega⟩ (by omega) greater back
  rw [show g = _ from records]
  refine ⟨moved₁.mono (Nat.le_refl _) (by omega) |>.trans (moved₂.mono (by omega) (Nat.le_refl _)),
    fun k low high => ?_, fun k low high => ?_, fun k low high => ?_⟩
  · rw [moved₂.eq_of_outside (.inl (by omega))]
    exact less₁ k low (by omega)
  · by_cases first : k < j + t.pb
    · rw [moved₂.eq_of_outside (.inl first)]
      exact equal₁ k (by omega) first
    · exact equal₂ k (by omega) (by omega)
  · exact greater₂ k (by omega) high

/-! ## `qsort` sorts -/

/-- A part of `m` records at `i` is sorted by the recursive call that `qsort` skips when it has
at most one record. -/
theorem qsort_part_sorts {mem : Nat → α} {o i m : Nat}
    (sorts : SortedOn (fun a b => compar a b ≤ 0) i (i + m)
        (recordsOf (qsort compar size mem (o + i * size) m) o size) ∧
      Rearranged i (i + m) (recordsOf mem o size)
        (recordsOf (qsort compar size mem (o + i * size) m) o size)) :
    let part := if m * size > size then qsort compar size mem (o + i * size) m else mem
    SortedOn (fun a b => compar a b ≤ 0) i (i + m) (recordsOf part o size) ∧
      Rearranged i (i + m) (recordsOf mem o size) (recordsOf part o size) := by
  intro part
  by_cases more : m * size > size
  · simp only [part, if_pos more]
    exact sorts
  · simp only [part, if_neg more]
    have single : m ≤ 1 :=
      Nat.le_of_mul_le_mul_right (by rw [Nat.one_mul]; exact Nat.le_of_not_gt more) size.pos
    exact ⟨fun a b _ _ _ => by omega, Rearranged.refl _ _ _⟩

theorem qsort_spec (lawful : TotalPreorderCmp compar) (mem : Nat → α) (o j nmemb : Nat) :
    SortedOn (fun a b => compar a b ≤ 0) j (j + nmemb)
        (recordsOf (qsort compar size mem (o + j * size) nmemb) o size) ∧
      Rearranged j (j + nmemb) (recordsOf mem o size)
        (recordsOf (qsort compar size mem (o + j * size) nmemb) o size) := by
  induction nmemb using Nat.strong_induction_on generalizing mem j with
  | _ nmemb ih =>
  rw [qsort]
  dsimp only
  by_cases small : nmemb < 7
  · rw [dif_pos small]
    exact insertionSort_sorts size lawful o j mem nmemb
  rw [dif_neg small]
  -- the pivot goes to the front
  generalize hm : swap mem size (swapinit (o + j * size) size) (o + j * size) _ = mem₁
  have pivoted : Rearranged j (j + nmemb) (recordsOf mem o size) (recordsOf mem₁ o size) := by
    rw [← hm, ptr_add, recordsOf_swap]
    exact rearranged_swap (by omega) ⟨by omega, Nat.add_lt_add_left (pivot_lt _ (by omega)) j⟩ _
  generalize hs : partitionLoop compar size (swapinit (o + j * size) size) (o + j * size) _ = t
  obtain ⟨inv, meet⟩ : PartInv compar size o j nmemb (recordsOf mem₁ o size j)
      (recordsOf mem₁ o size) t.mem t.pa t.pb t.pc t.pd ∧ t.pb = t.pc + 1 := by
    rw [← hs]
    exact partitionLoop_inv size rfl _
      ⟨Rearranged.refl _ _ _, fun k low high => by dsimp only at low high; omega,
        fun k low high => by dsimp only at low high; omega,
        fun k low high => by dsimp only at low high; omega,
        fun k low high => by dsimp only at low high; omega, by dsimp only; omega⟩
  have partitioned := pivoted.trans (inv.moved.mono (Nat.le_succ j) (Nat.le_refl _))
  by_cases sorted : t.swapCnt = false
  · rw [if_pos sorted]
    obtain ⟨sorts, moved⟩ := insertionSort_sorts size lawful o j t.mem nmemb
    exact ⟨sorts, partitioned.trans moved⟩
  rw [if_neg sorted]
  -- the pointer differences are whole numbers of records
  have one := t.one_le_pa
  have below := t.pc_le_pd
  have last := t.pd_lt
  have less_bytes : o + j * size + t.pb * size - (o + j * size + t.pa * size) =
      (t.pb - t.pa) * size := by
    rw [Nat.add_sub_add_left, Nat.sub_mul]
  have greater_bytes : o + j * size + t.pd * size - (o + j * size + t.pc * size) =
      (t.pd - t.pc) * size := by
    rw [Nat.add_sub_add_left, Nat.sub_mul]
  have right_at : o + j * size + nmemb * size - (t.pd - t.pc) * size =
      o + (j + (nmemb - (t.pd - t.pc))) * size := by
    have within : t.pd - t.pc ≤ nmemb := by omega
    rw [ptr_add, Nat.add_sub_assoc (Nat.mul_le_mul_right _ (by omega)), ← Nat.sub_mul,
      Nat.add_sub_assoc within]
  rw [less_bytes, greater_bytes, right_at, Nat.mul_div_cancel _ size.pos,
    Nat.mul_div_cancel _ size.pos]
  obtain ⟨moved, less, equal, greater⟩ := vecswaps_regions size lawful rfl inv meet
  generalize vecswaps t.mem _ _ _ _ _ _ _ _ = mem₂ at moved less equal greater ⊢
  obtain ⟨leftSorted, leftMoved⟩ := qsort_part_sorts size (ih (t.pb - t.pa) (by omega) mem₂ j)
  generalize (if (t.pb - t.pa) * size > size then _ else mem₂) = mem₃ at leftSorted leftMoved ⊢
  obtain ⟨rightSorted, rightMoved⟩ := qsort_part_sorts size
    (ih (t.pd - t.pc) (by omega) mem₃ (j + (nmemb - (t.pd - t.pc))))
  generalize (if (t.pd - t.pc) * size > size then _ else mem₃) = mem₄ at rightSorted rightMoved ⊢
  rw [show j + (nmemb - (t.pd - t.pc)) = j + nmemb - (t.pd - t.pc) by omega,
    show j + nmemb - (t.pd - t.pc) + (t.pd - t.pc) = j + nmemb by omega] at rightSorted rightMoved
  refine ⟨SortedOn.of_partitioned lawful (by omega) less equal greater leftMoved leftSorted
    rightMoved rightSorted, ?_⟩
  exact partitioned.trans (moved.trans ((leftMoved.mono (Nat.le_refl _) (by omega)).trans
    (rightMoved.mono (by omega) (Nat.le_refl _))))

/-- `qsort` leaves the array of `nmemb` records of `size` cells at `base` holding its records
in another order, sorted by a comparator that is a total preorder. -/
theorem qsort_sorts (lawful : TotalPreorderCmp compar) (mem : Nat → α) (base nmemb : Nat) :
    let sorted := (List.range nmemb).map (recordsOf (qsort compar size mem base nmemb) base size)
    sorted.Perm ((List.range nmemb).map (recordsOf mem base size)) ∧
      sorted.Pairwise (fun a b => compar a b ≤ 0) := by
  obtain ⟨sorts, moved⟩ := qsort_spec size lawful mem base 0 nmemb
  rw [Nat.zero_mul, Nat.add_zero, Nat.zero_add] at sorts moved
  have perm := moved.perm
  have pairwise := sorts.pairwise
  rw [Nat.sub_zero, ← List.range_eq_range'] at perm pairwise
  exact ⟨perm, pairwise⟩

theorem qsort_sorts_by_first_cell :
    TotalPreorderCmp (fun a b : List Nat => (a.headD 0 : Int) - b.headD 0) ∧
      let sorted := (List.range 9).map (recordsOf (qsort
        (fun a b : List Nat => (a.headD 0 : Int) - b.headD 0) 2 (fun k => 20 - k) 0 9) 0 2)
      sorted.Perm ((List.range 9).map (recordsOf (fun k => 20 - k) 0 2)) ∧
        sorted.Pairwise (fun a b : List Nat => (a.headD 0 : Int) - b.headD 0 ≤ 0) :=
  have lawful : TotalPreorderCmp (fun a b : List Nat => (a.headD 0 : Int) - b.headD 0) :=
    ⟨fun a b c => by omega, fun a b => by omega⟩
  ⟨lawful, qsort_sorts 2 lawful (fun k => 20 - k) 0 9⟩

end TinyAra.Libc.Stdlib
