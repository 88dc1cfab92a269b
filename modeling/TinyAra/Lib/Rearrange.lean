/-
# Lib.Rearrange -- arrays rearranged in place

An array is a function from indices to elements. A sort that works in place only moves
elements about: the array it leaves is the array it was given composed with a permutation of
the indices that fixes every index outside the range it sorts (`Rearranged`). Rearrangements
compose (`Rearranged.trans`), keep every property all elements of the range have
(`Rearranged.forall_mem`), and permute the list of the range's elements (`Rearranged.perm`).

The moves of such a sort exchange two blocks of indices of one length (`blockPerm`); a single
element is a block of one (`blockPerm_one`). Exchanging the shorter of two adjacent segments
with the far end of the other puts the second segment's elements before the first's
(`blockPerm_exchange`). A memory of cells read as records of `size` cells (`recordsOf`) sees
an exchange of blocks of whole records as the exchange of the records
(`recordsOf_comp_blockPerm`).

A comparator that returns an `Int` orders by a total preorder when `cmp a b ≤ 0` is transitive
and its sign flips with its arguments (`TotalPreorderCmp`); `SortedOn` says a range is in
order, and `SortedOn.pairwise` reads that off as `List.Pairwise` of its elements. A range
split into the less, the equal and the greater than some `p` is in order once its two ends are
sorted in place (`SortedOn.of_partitioned`).
-/
import Mathlib.Logic.Equiv.Basic
import Mathlib.Data.List.Perm.Basic
import Mathlib.Data.List.Nodup
import TinyAra.Lib.Memory

namespace Rearrange

set_option autoImplicit false

/-! ## Exchanging two blocks -/

/-- The index each index takes its element from when the blocks `[i, i + n)` and `[j, j + n)`
are exchanged. -/
def blockPerm (i j n k : Nat) : Nat :=
  if i ≤ k ∧ k < i + n then k - i + j else if j ≤ k ∧ k < j + n then k - j + i else k

/-- The two blocks do not overlap, or they are one block. -/
def Apart (i j n : Nat) : Prop := i + n ≤ j ∨ j + n ≤ i ∨ i = j

theorem Apart.scale {i j n : Nat} (apart : Apart i j n) (o s : Nat) :
    Apart (o + i * s) (o + j * s) (n * s) := by
  unfold Apart at apart ⊢
  rcases apart with before | after | same
  · have := Nat.mul_le_mul_right s before
    rw [Nat.add_mul] at this
    omega
  · have := Nat.mul_le_mul_right s after
    rw [Nat.add_mul] at this
    omega
  · exact .inr (.inr (by rw [same]))

theorem blockPerm_of_outside {i j n k : Nat} (left : ¬ (i ≤ k ∧ k < i + n))
    (right : ¬ (j ≤ k ∧ k < j + n)) : blockPerm i j n k = k := by
  simp only [blockPerm, if_neg left, if_neg right]

theorem blockPerm_involutive {i j n : Nat} (apart : Apart i j n) :
    Function.Involutive (blockPerm i j n) := by
  intro k
  unfold Apart at apart
  unfold blockPerm
  split_ifs <;> omega

@[simp] theorem blockPerm_zero (i j : Nat) : blockPerm i j 0 = id := by
  funext k
  exact blockPerm_of_outside (by omega) (by omega)

theorem blockPerm_one (i j : Nat) : blockPerm i j 1 = Equiv.swap i j := by
  funext k
  rw [Equiv.swap_apply_def]
  unfold blockPerm
  split_ifs <;> omega

/-- Exchanging `[p, p + w)` after `[p + w, p + w + m)` with their partners is exchanging
`[p, p + w + m)`, when the blocks are apart. -/
theorem blockPerm_comp {p q w m : Nat} (apart : Apart p q (w + m)) (k : Nat) :
    blockPerm p q w (blockPerm (p + w) (q + w) m k) = blockPerm p q (w + m) k := by
  unfold Apart at apart
  unfold blockPerm
  split_ifs <;> omega

theorem blockPerm_add (o i j n k : Nat) :
    blockPerm (o + i) (o + j) n (o + k) = o + blockPerm i j n k := by
  unfold blockPerm
  split_ifs <;> omega

theorem blockPerm_mul {s t : Nat} (i j n m : Nat) (small : t < s) :
    blockPerm (i * s) (j * s) (n * s) (m * s + t) = blockPerm i j n m * s + t := by
  have pos : 0 < s := by omega
  have quot : (m * s + t) / s = m := by
    rw [Nat.add_comm, Nat.add_mul_div_right _ _ pos, Nat.div_eq_of_lt small, Nat.zero_add]
  have above : ∀ a, a * s ≤ m * s + t ↔ a ≤ m := fun a => by
    rw [← Nat.le_div_iff_mul_le pos, quot]
  have below : ∀ a, m * s + t < a * s ↔ m < a := fun a => by
    rw [← Nat.div_lt_iff_lt_mul pos, quot]
  unfold blockPerm
  simp only [← Nat.add_mul, above, below]
  split_ifs with first second
  · have le : i * s ≤ m * s := Nat.mul_le_mul_right s first.1
    rw [Nat.add_mul, Nat.sub_mul]
    omega
  · have le : j * s ≤ m * s := Nat.mul_le_mul_right s second.1
    rw [Nat.add_mul, Nat.sub_mul]
    omega
  · rfl

theorem blockPerm_exchange {lo m hi r k : Nat} (ordered : lo ≤ m ∧ m ≤ hi)
    (shorter : r = min (m - lo) (hi - m)) :
    (lo ≤ k → k < lo + (hi - m) →
        m ≤ blockPerm lo (hi - r) r k ∧ blockPerm lo (hi - r) r k < hi) ∧
      (lo + (hi - m) ≤ k → k < hi →
        lo ≤ blockPerm lo (hi - r) r k ∧ blockPerm lo (hi - r) r k < m) := by
  have bound : r ≤ m - lo ∧ r ≤ hi - m := by omega
  unfold blockPerm
  refine ⟨fun low high => ?_, fun low high => ?_⟩ <;> split_ifs <;> omega

/-! ## Rearrangements -/

section Rearranged

variable {β : Type}

/-- `g` is `f` with the elements of `[lo, hi)` moved about: `f` composed with a permutation of
the indices that fixes every index outside the range. -/
def Rearranged (lo hi : Nat) (f g : Nat → β) : Prop :=
  ∃ σ : Equiv.Perm Nat, (∀ k, k < lo ∨ hi ≤ k → σ k = k) ∧ ∀ k, g k = f (σ k)

theorem mem_range_iff {lo hi : Nat} {σ : Equiv.Perm Nat} (fixes : ∀ k, k < lo ∨ hi ≤ k → σ k = k)
    (k : Nat) : (lo ≤ σ k ∧ σ k < hi) ↔ (lo ≤ k ∧ k < hi) := by
  constructor
  · intro inside
    by_contra outside
    rw [fixes k (by omega)] at inside
    exact outside inside
  · intro inside
    by_contra outside
    have moved : σ (σ k) = σ k := fixes (σ k) (by omega)
    rw [σ.injective moved] at outside
    exact outside inside

variable {lo hi : Nat} {f g h : Nat → β}

@[refl] theorem Rearranged.refl (lo hi : Nat) (f : Nat → β) : Rearranged lo hi f f :=
  ⟨Equiv.refl Nat, fun _ _ => rfl, fun _ => rfl⟩

theorem Rearranged.trans (first : Rearranged lo hi f g) (second : Rearranged lo hi g h) :
    Rearranged lo hi f h := by
  obtain ⟨σ, fixσ, eqσ⟩ := first
  obtain ⟨τ, fixτ, eqτ⟩ := second
  refine ⟨τ.trans σ, fun k outside => ?_, fun k => ?_⟩
  · simp only [Equiv.trans_apply, fixτ k outside, fixσ k outside]
  · rw [eqτ, eqσ, Equiv.trans_apply]

theorem Rearranged.mono {lo' hi' : Nat} (re : Rearranged lo hi f g) (low : lo' ≤ lo)
    (high : hi ≤ hi') : Rearranged lo' hi' f g := by
  obtain ⟨σ, fixes, eq⟩ := re
  exact ⟨σ, fun k outside => fixes k (by omega), eq⟩

theorem Rearranged.eq_of_outside (re : Rearranged lo hi f g) {k : Nat} (outside : k < lo ∨ hi ≤ k) :
    g k = f k := by
  obtain ⟨σ, fixes, eq⟩ := re
  rw [eq, fixes k outside]

theorem rearranged_blockPerm {i j n : Nat} (apart : Apart i j n) (first : lo ≤ i ∧ i + n ≤ hi)
    (second : lo ≤ j ∧ j + n ≤ hi) (f : Nat → β) : Rearranged lo hi f (f ∘ blockPerm i j n) := by
  refine ⟨(blockPerm_involutive apart).toPerm _, fun k outside => ?_, fun k => rfl⟩
  exact blockPerm_of_outside (by omega) (by omega)

/-- Exchanging the shorter of two adjacent segments with the far end of the other rearranges
them, and what held of the records of each segment then holds of those of the other's place. -/
theorem exchange_regions {Q₁ Q₂ : β → Prop} {m r : Nat} (ordered : lo ≤ m ∧ m ≤ hi)
    (shorter : r = min (m - lo) (hi - m)) (first : ∀ k, lo ≤ k → k < m → Q₁ (f k))
    (second : ∀ k, m ≤ k → k < hi → Q₂ (f k)) :
    Rearranged lo hi f (f ∘ blockPerm lo (hi - r) r) ∧
      (∀ k, lo ≤ k → k < lo + (hi - m) → Q₂ (f (blockPerm lo (hi - r) r k))) ∧
      (∀ k, lo + (hi - m) ≤ k → k < hi → Q₁ (f (blockPerm lo (hi - r) r k))) := by
  refine ⟨rearranged_blockPerm (.inl (by omega)) (by omega) (by omega) f,
    fun k low high => ?_, fun k low high => ?_⟩
  · obtain ⟨into, inside⟩ := (blockPerm_exchange (k := k) ordered shorter).1 low high
    exact second _ into inside
  · obtain ⟨into, inside⟩ := (blockPerm_exchange (k := k) ordered shorter).2 low high
    exact first _ into inside

theorem rearranged_swap {i j : Nat} (first : lo ≤ i ∧ i < hi) (second : lo ≤ j ∧ j < hi)
    (f : Nat → β) : Rearranged lo hi f (f ∘ Equiv.swap i j) := by
  refine ⟨Equiv.swap i j, fun k outside => ?_, fun k => rfl⟩
  exact Equiv.swap_apply_of_ne_of_ne (by omega) (by omega)

theorem Rearranged.forall_mem {P : β → Prop} (re : Rearranged lo hi f g)
    (all : ∀ k, lo ≤ k → k < hi → P (f k)) : ∀ k, lo ≤ k → k < hi → P (g k) := by
  obtain ⟨σ, fixes, eq⟩ := re
  intro k low high
  have inside := (mem_range_iff fixes k).mpr ⟨low, high⟩
  rw [eq]
  exact all (σ k) inside.1 inside.2

theorem Rearranged.perm (re : Rearranged lo hi f g) :
    ((List.range' lo (hi - lo)).map g).Perm ((List.range' lo (hi - lo)).map f) := by
  obtain ⟨σ, fixes, eq⟩ := re
  have composed : (List.range' lo (hi - lo)).map g = ((List.range' lo (hi - lo)).map σ).map f := by
    rw [List.map_map]
    exact List.map_congr_left fun k _ => eq k
  rw [composed]
  apply List.Perm.map f
  rw [List.perm_ext_iff_of_nodup ((List.nodup_range' 1).map σ.injective) (List.nodup_range' 1)]
  intro k
  simp only [List.mem_map, List.mem_range'_1]
  constructor
  · rintro ⟨k', inside, rfl⟩
    have := (mem_range_iff fixes k').mpr ⟨inside.1, by omega⟩
    omega
  · intro inside
    refine ⟨σ.symm k, ?_, σ.apply_symm_apply k⟩
    have := (mem_range_iff fixes (σ.symm k)).mp (by rw [σ.apply_symm_apply]; omega)
    omega

end Rearranged

/-! ## Records of a memory -/

section Records

variable {α : Type}

/-- The memory read as records of `size` cells from `o`: record `k` is the `size` cells from
`o + k * size`. -/
def recordsOf (mem : Nat → α) (o size k : Nat) : List α := Memory.read mem (o + k * size) size

theorem recordsOf_add (mem : Nat → α) (o j size k : Nat) :
    recordsOf mem (o + j * size) size k = recordsOf mem o size (j + k) := by
  simp only [recordsOf, Nat.add_mul, Nat.add_assoc]

theorem recordsOf_comp_blockPerm (mem : Nat → α) (o size i j n : Nat) :
    recordsOf (mem ∘ blockPerm (o + i * size) (o + j * size) (n * size)) o size =
      recordsOf mem o size ∘ blockPerm i j n := by
  funext m
  apply List.ext_getElem
  · simp [recordsOf]
  · intro t short _
    simp only [recordsOf, Memory.length_read] at short
    simp only [recordsOf, Function.comp, Memory.getElem_read]
    rw [Nat.add_assoc, blockPerm_add, blockPerm_mul i j n m short, Nat.add_assoc]

end Records

/-! ## Sorted ranges -/

section Sorted

variable {β : Type}

/-- `cmp` compares by a total preorder: `cmp a b ≤ 0` is transitive, and the sign of
`cmp b a` is the opposite of that of `cmp a b`. -/
structure TotalPreorderCmp (cmp : β → β → Int) : Prop where
  trans : ∀ a b c, cmp a b ≤ 0 → cmp b c ≤ 0 → cmp a c ≤ 0
  flip : ∀ a b, cmp a b ≤ 0 ↔ 0 ≤ cmp b a

variable {cmp : β → β → Int}

theorem TotalPreorderCmp.self (lawful : TotalPreorderCmp cmp) (a : β) : cmp a a = 0 := by
  have := lawful.flip a a
  omega

theorem TotalPreorderCmp.le_through (lawful : TotalPreorderCmp cmp) {a b p : β}
    (below : cmp a p ≤ 0) (above : 0 ≤ cmp b p) : cmp a b ≤ 0 :=
  lawful.trans a p b below ((lawful.flip p b).mpr above)

theorem TotalPreorderCmp.le_of_pos (lawful : TotalPreorderCmp cmp) {a b : β}
    (after : 0 < cmp a b) : cmp b a ≤ 0 :=
  (lawful.flip b a).mpr (Int.le_of_lt after)

/-- The elements of `[lo, hi)` are in order. -/
def SortedOn (r : β → β → Prop) (lo hi : Nat) (f : Nat → β) : Prop :=
  ∀ i j, lo ≤ i → i < j → j < hi → r (f i) (f j)

theorem SortedOn.pairwise {r : β → β → Prop} {lo hi : Nat} {f : Nat → β}
    (sorted : SortedOn r lo hi f) : ((List.range' lo (hi - lo)).map f).Pairwise r := by
  rw [List.pairwise_map]
  refine (List.pairwise_lt_range' 1).imp_of_mem fun {i j} first second lt => ?_
  rw [List.mem_range'_1] at first second
  exact sorted i j first.1 lt (by omega)

/-- A range is in order when its two ends are, and every element up to the end of the first
is at most some `p` and every one from the start of the second at least `p`. -/
theorem SortedOn.around (lawful : TotalPreorderCmp cmp) {f : Nat → β} {p : β}
    {lo m₁ m₂ hi : Nat} (left : SortedOn (fun a b => cmp a b ≤ 0) lo m₁ f)
    (right : SortedOn (fun a b => cmp a b ≤ 0) m₂ hi f)
    (below : ∀ k, lo ≤ k → k < m₂ → cmp (f k) p ≤ 0)
    (above : ∀ k, m₁ ≤ k → k < hi → 0 ≤ cmp (f k) p) :
    SortedOn (fun a b => cmp a b ≤ 0) lo hi f := by
  intro x y low lt high
  by_cases first : y < m₁
  · exact left x y low lt first
  · by_cases second : m₂ ≤ x
    · exact right x y second lt high
    · exact lawful.le_through (below x low (by omega)) (above y (by omega) high)

theorem SortedOn.of_partitioned (lawful : TotalPreorderCmp cmp) {f g h : Nat → β} {p : β}
    {lo m₁ m₂ hi : Nat} (order : m₁ ≤ m₂) (less : ∀ k, lo ≤ k → k < m₁ → cmp (f k) p < 0)
    (equal : ∀ k, m₁ ≤ k → k < m₂ → cmp (f k) p = 0)
    (greater : ∀ k, m₂ ≤ k → k < hi → 0 < cmp (f k) p)
    (left : Rearranged lo m₁ f g) (leftSorted : SortedOn (fun a b => cmp a b ≤ 0) lo m₁ g)
    (right : Rearranged m₂ hi g h) (rightSorted : SortedOn (fun a b => cmp a b ≤ 0) m₂ hi h) :
    SortedOn (fun a b => cmp a b ≤ 0) lo hi h := by
  have first : SortedOn (fun a b => cmp a b ≤ 0) lo m₁ h := fun x y low lt high => by
    rw [right.eq_of_outside (.inl (by omega)), right.eq_of_outside (.inl (by omega))]
    exact leftSorted x y low lt high
  refine first.around lawful rightSorted (p := p) (fun k low high => ?_) (fun k low high => ?_)
  · rw [right.eq_of_outside (.inl high)]
    by_cases inLeft : k < m₁
    · exact Int.le_of_lt (left.forall_mem (P := fun x => cmp x p < 0) less k low inLeft)
    · rw [left.eq_of_outside (.inr (Nat.le_of_not_gt inLeft))]
      exact Int.le_of_eq (equal k (Nat.le_of_not_gt inLeft) high)
  · by_cases inMiddle : k < m₂
    · rw [right.eq_of_outside (.inl inMiddle), left.eq_of_outside (.inr low)]
      exact Int.le_of_eq (equal k low inMiddle).symm
    · have moved := right.forall_mem (P := fun x => 0 < cmp x p) (fun k low high => by
        rw [left.eq_of_outside (.inr (by omega))]
        exact greater k low high)
      exact Int.le_of_lt (moved k (Nat.le_of_not_gt inMiddle) high)

end Sorted

end Rearrange
