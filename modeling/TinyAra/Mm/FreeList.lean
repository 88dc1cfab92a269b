/-
# Mm.FreeList -- the free list of `mm_nodelist`, and best fit

The nodes of `heap->mm_nodelist` and the free chunks hang in one list by `flink` and `blink`:
node `i`, then the free chunks of class `i` by size, smallest first, then node `i + 1`. This
module names that shape (`FreeList h B`, with `B i` the chunks of class `i`) and proves what
the code relies on it for:

* `mm_size2ndx` is the binary logarithm of the size in granules, below `MM_MAX_CHUNK`, and so
  monotone (`mmSize2ndx_eq`, `mmSize2ndx_mono`);
* along the list, chunk sizes never decrease (`FreeList.ordered`), so the walk of `mm_malloc`
  from the node of a class finds a smallest chunk that is large enough
  (`FreeList.find_best`, `FreeList.found_best`);
* unlinking a chunk (`FreeList.remove`), inserting one with `mm_addfreechunk`
  (`FreeList.addfreechunk`, whose loop stops where `FreeList.addLoop_class` says) and editing
  headers off the list (`FreeList.modifyHdr`) keep the shape, with the chunks of one class edited
  as a list that keeps the facts read class by class (`FreeList.classes_update`).
-/
import TinyAra.Mm.Heap
import TinyAra.Lib.OrderedInsert
import Mathlib.Data.Nat.Log

namespace TinyAra.Mm

open DoublyLinked

set_option autoImplicit false

/-! ## Sizes and classes -/

variable {x a b ndx i fuel s : Nat} {l : List Nat}

theorem and_complement {k : Nat} (small : x < 2 ^ 32) (le : k ≤ 32) :
    x &&& complement (2 ^ k - 1) = x / 2 ^ k * 2 ^ k := by
  have mask : complement (2 ^ k - 1) = (2 ^ (32 - k) - 1) <<< k := by
    have split : 2 ^ 32 = 2 ^ (32 - k) * 2 ^ k := by rw [← Nat.pow_add, Nat.sub_add_cancel le]
    have one : 1 ≤ 2 ^ k := Nat.one_le_two_pow
    rw [complement, Nat.shiftLeft_eq, Nat.sub_mul, ← split, Nat.one_mul]
    omega
  rw [mask, ← Nat.shiftRight_eq_div_pow, ← Nat.shiftLeft_eq]
  apply Nat.eq_of_testBit_eq
  intro i
  simp only [Nat.testBit_and, Nat.testBit_shiftLeft, Nat.testBit_shiftRight,
    Nat.testBit_two_pow_sub_one]
  -- the mask keeps bits `k` to `31`, and `x` has none above
  by_cases low : k ≤ i
  · by_cases high : i < 32
    · simp [low, Nat.add_sub_cancel' low, show i - k < 32 - k by omega]
    · have beyond : x.testBit i = false :=
        Nat.testBit_lt_two_pow (lt_of_lt_of_le small (Nat.pow_le_pow_right (by decide) (by omega)))
      simp [low, Nat.add_sub_cancel' low, beyond]
  · simp [low]

theorem mmAlignUp_eq (noWrap : a + mmGranMask < 2 ^ 32) :
    mmAlignUp a = (a + mmGranMask) / mmMinChunk * mmMinChunk := by
  rw [mmAlignUp, sizeT, Nat.mod_eq_of_lt noWrap]
  exact and_complement noWrap (by decide)

theorem le_chunkSize {n : Nat} (noWrap : n + sizeofMmAllocnode + mmGranMask < 2 ^ 32) :
    n + sizeofMmAllocnode ≤ chunkSize n := by
  rw [chunkSize, sizeT, Nat.mod_eq_of_lt (by omega), mmAlignUp_eq noWrap]
  simp only [sizeofMmAllocnode, mmGranMask, mmMinChunk, mmMinShift]
  omega

theorem size2ndxLoop_eq : ∀ (rounds ndx size : Nat), size < 2 ^ rounds →
    size2ndxLoop rounds ndx size = ndx + Nat.log 2 size
  | 0, ndx, size, small => by
    obtain rfl : size = 0 := by simpa using small
    simp [size2ndxLoop]
  | rounds + 1, ndx, size, small => by
    by_cases big : size > 1
    · have half : size >>> 1 < 2 ^ rounds := by rw [Nat.shiftRight_one, Nat.pow_succ] at *; omega
      rw [size2ndxLoop, if_pos big, size2ndxLoop_eq rounds (ndx + 1) (size >>> 1) half,
        Nat.shiftRight_one, Nat.log_div_base]
      have : 1 ≤ Nat.log 2 size := Nat.le_log_of_pow_le (by decide) (by omega)
      omega
    · rw [size2ndxLoop, if_neg big]
      rcases (show size = 0 ∨ size = 1 by omega) with rfl | rfl <;> simp

theorem mmSize2ndx_eq {size : Nat} (small : size < mmMaxChunk) :
    mmSize2ndx size = Nat.log 2 (size / mmMinChunk) := by
  have granules : size / mmMinChunk < 2 ^ 32 := by
    change size < 2 ^ 22 at small
    change size / 2 ^ 4 < 2 ^ 32
    omega
  rw [mmSize2ndx, if_neg (Nat.not_le.mpr small), Nat.shiftRight_eq_div_pow]
  exact (size2ndxLoop_eq 32 0 _ granules).trans (Nat.zero_add _)

theorem mmSize2ndx_lt_of_lt {size : Nat} (small : size < mmMaxChunk) :
    mmSize2ndx size < mmNnodes - 1 := by
  have granules : size / mmMinChunk < 2 ^ 18 := by
    change size < 2 ^ 22 at small
    change size / 2 ^ 4 < 2 ^ 18
    omega
  rw [mmSize2ndx_eq small]
  by_cases none : size / mmMinChunk = 0
  · rw [none, Nat.log_zero_right]
    decide
  · exact Nat.log_lt_of_lt_pow none granules

theorem mmSize2ndx_lt (size : Nat) : mmSize2ndx size < mmNnodes := by
  by_cases big : mmMaxChunk ≤ size
  · rw [mmSize2ndx, if_pos big]
    decide
  · exact Nat.lt_of_lt_of_le (mmSize2ndx_lt_of_lt (Nat.lt_of_not_le big)) (Nat.sub_le _ _)

theorem mmSize2ndx_mono (le : a ≤ b) : mmSize2ndx a ≤ mmSize2ndx b := by
  by_cases bBig : mmMaxChunk ≤ b
  · have top : mmSize2ndx b = mmNnodes - 1 := if_pos bBig
    rw [top]
    by_cases aBig : mmMaxChunk ≤ a
    · exact Nat.le_of_eq (if_pos aBig)
    · exact Nat.le_of_lt (mmSize2ndx_lt_of_lt (Nat.lt_of_not_le aBig))
  · have bSmall := Nat.lt_of_not_le bBig
    rw [mmSize2ndx_eq (Nat.lt_of_le_of_lt le bSmall), mmSize2ndx_eq bSmall]
    exact Nat.log_mono_right (Nat.div_le_div_right le)

theorem lt_of_mmSize2ndx_lt (lt : mmSize2ndx a < mmSize2ndx b) : a < b :=
  Nat.lt_of_not_le fun le => Nat.not_le_of_lt lt (mmSize2ndx_mono le)

/-- The class `mm_malloc` starts from is `mm_size2ndx` of the chunk size: its test for
`MM_MAX_CHUNK` repeats the one inside `mm_size2ndx`. -/
theorem mallocNdx_eq (size : Nat) :
    (if mmMaxChunk ≤ size then mmNnodes - 1 else mmSize2ndx size) = mmSize2ndx size := by
  by_cases big : mmMaxChunk ≤ size
  · rw [if_pos big, mmSize2ndx, if_pos big]
  · rw [if_neg big]

/-! ## The list -/

/-- The nodes the links run through from `mm_nodelist[i]` over `n` classes: each node of the
array, then the free chunks of its class. -/
def layoutFrom (h : MmHeap) (B : Nat → List Nat) : Nat → Nat → List Nat
  | _, 0 => []
  | i, n + 1 => h.node i :: (B i ++ layoutFrom h B (i + 1) n)

def layout (h : MmHeap) (B : Nat → List Nat) : List Nat := layoutFrom h B 0 mmNnodes

def freeChunks (B : Nat → List Nat) : List Nat := (List.range mmNnodes).flatMap B

/-- The free list of `h` holds the chunks `B i` in class `i`: the links lay out `layout h B`,
the nodes of the array have size 0, every chunk has a positive size of its class, each class
is by size, smallest first, and no node of the list lies inside a free chunk. -/
structure FreeList (h : MmHeap) (B : Nat → List Nat) : Prop where
  chain : Chain h.links none (layout h B) none
  nodup : (layout h B).Nodup
  sentinel : ∀ i < mmNnodes, (h.hdr (h.node i)).size = 0
  classed : ∀ i < mmNnodes, ∀ a ∈ B i, 0 < (h.hdr a).size ∧ mmSize2ndx (h.hdr a).size = i
  sorted : ∀ i < mmNnodes, (B i).Pairwise fun a b => (h.hdr a).size ≤ (h.hdr b).size
  apart : ∀ a ∈ freeChunks B, ∀ b ∈ layout h B, a < b → a + (h.hdr a).size ≤ b

variable {h : MmHeap} {B : Nat → List Nat}

theorem layoutFrom_add (i m n : Nat) :
    layoutFrom h B i (m + n) = layoutFrom h B i m ++ layoutFrom h B (i + m) n := by
  induction m generalizing i with
  | zero => simp [layoutFrom]
  | succ m ih =>
    rw [Nat.add_right_comm, layoutFrom, ih, layoutFrom, show i + 1 + m = i + (m + 1) by omega]
    simp

theorem layoutFrom_congr {B' : Nat → List Nat} : ∀ {i n : Nat},
    (∀ j, i ≤ j → j < i + n → B' j = B j) → layoutFrom h B' i n = layoutFrom h B i n
  | _, 0, _ => rfl
  | i, n + 1, same => by
    rw [layoutFrom, layoutFrom, same i (Nat.le_refl i) (by omega),
      layoutFrom_congr fun j low high => same j (by omega) (by omega)]

theorem layoutFrom_sublist {B' : Nat → List Nat} (sub : ∀ j, (B' j).Sublist (B j)) :
    ∀ {i n : Nat}, (layoutFrom h B' i n).Sublist (layoutFrom h B i n)
  | _, 0 => List.Sublist.slnil
  | i, n + 1 => by
    rw [layoutFrom, layoutFrom]
    exact ((sub i).append (layoutFrom_sublist sub)).cons_cons _

theorem layoutFrom_nodelist {h' : MmHeap} (same : h'.nodelist = h.nodelist) :
    ∀ {i n : Nat}, layoutFrom h' B i n = layoutFrom h B i n
  | _, 0 => rfl
  | i, n + 1 => by
    rw [layoutFrom, layoutFrom, layoutFrom_nodelist same, MmHeap.node, MmHeap.node, same]

theorem mem_layoutFrom : ∀ {i n : Nat},
    b ∈ layoutFrom h B i n ↔ ∃ j, i ≤ j ∧ j < i + n ∧ (b = h.node j ∨ b ∈ B j)
  | _, 0 => by
    simp only [layoutFrom, List.not_mem_nil, false_iff]
    rintro ⟨j, low, high, -⟩
    omega
  | i, n + 1 => by
    rw [layoutFrom, List.mem_cons, List.mem_append, mem_layoutFrom]
    constructor
    · rintro (here | inB | ⟨j, low, high, which⟩)
      · exact ⟨i, Nat.le_refl i, by omega, .inl here⟩
      · exact ⟨i, Nat.le_refl i, by omega, .inr inB⟩
      · exact ⟨j, by omega, by omega, which⟩
    · rintro ⟨j, low, high, which⟩
      by_cases first : j = i
      · subst first
        rcases which with here | inB
        · exact .inl here
        · exact .inr (.inl inB)
      · exact .inr (.inr ⟨j, by omega, by omega, which⟩)
theorem mem_layout {b : Nat} :
    b ∈ layout h B ↔ ∃ j < mmNnodes, b = h.node j ∨ b ∈ B j := by
  rw [layout, mem_layoutFrom]
  constructor
  · rintro ⟨j, -, high, which⟩
    exact ⟨j, by omega, which⟩
  · rintro ⟨j, high, which⟩
    exact ⟨j, Nat.zero_le j, by omega, which⟩

@[simp] theorem mem_freeChunks {b : Nat} : b ∈ freeChunks B ↔ ∃ i < mmNnodes, b ∈ B i := by
  simp [freeChunks]

theorem layout_split (lt : ndx < mmNnodes) :
    layout h B = layoutFrom h B 0 ndx ++
      h.node ndx :: (B ndx ++ layoutFrom h B (ndx + 1) (mmNnodes - ndx - 1)) := by
  have total : mmNnodes = ndx + ((mmNnodes - ndx - 1) + 1) := by omega
  rw [layout, total, layoutFrom_add, Nat.zero_add, layoutFrom, ← total]

/-- The list with class `ndx` replaced, split at node `ndx` of the array: only that class
changes. -/
theorem layout_update (lt : ndx < mmNnodes) (l : List Nat) :
    layout h (Function.update B ndx l) = layoutFrom h B 0 ndx ++
      h.node ndx :: (l ++ layoutFrom h B (ndx + 1) (mmNnodes - ndx - 1)) := by
  have below : layoutFrom h (Function.update B ndx l) 0 ndx = layoutFrom h B 0 ndx :=
    layoutFrom_congr fun j _ high => Function.update_of_ne (by omega) _ _
  have above : layoutFrom h (Function.update B ndx l) (ndx + 1) (mmNnodes - ndx - 1) =
      layoutFrom h B (ndx + 1) (mmNnodes - ndx - 1) :=
    layoutFrom_congr fun j low _ => Function.update_of_ne (by omega) _ _
  rw [layout_split lt, Function.update_self, below, above]

abbrev suffix (h : MmHeap) (B : Nat → List Nat) (ndx : Nat) : List Nat :=
  B ndx ++ layoutFrom h B (ndx + 1) (mmNnodes - ndx - 1)

theorem mem_suffix {j : Nat} (inB : b ∈ B j) (low : ndx ≤ j) (high : j < mmNnodes) :
    b ∈ suffix h B ndx := by
  by_cases same : j = ndx
  · subst same
    exact List.mem_append_left _ inB
  · exact List.mem_append_right _ (mem_layoutFrom.mpr ⟨j, by omega, by omega, .inr inB⟩)

@[simp] theorem layout_withLinks (L : Links Nat) : layout { h with links := L } B = layout h B :=
  layoutFrom_nodelist rfl

@[simp] theorem layout_modifyHdr (a : Nat) (f : Header → Header) :
    layout (h.modifyHdr a f) B = layout h B :=
  layoutFrom_nodelist rfl

theorem node_mem_layout (lt : i < mmNnodes) : h.node i ∈ layout h B :=
  mem_layout.mpr ⟨i, lt, .inl rfl⟩

theorem mem_layout_of_mem (lt : i < mmNnodes) (inB : a ∈ B i) : a ∈ layout h B :=
  mem_layout.mpr ⟨i, lt, .inr inB⟩

theorem mem_layout_update (lt : i < mmNnodes)
    (mem : b ∈ layout h (Function.update B i l)) : b ∈ l ∨ b ∈ layout h B := by
  rw [layout_update lt] at mem
  rw [layout_split lt]
  simp only [List.mem_append, List.mem_cons] at mem ⊢
  tauto

theorem mem_freeChunks_update (lt : i < mmNnodes) :
    b ∈ freeChunks (Function.update B i l) ↔ b ∈ l ∨ ∃ j < mmNnodes, j ≠ i ∧ b ∈ B j := by
  rw [mem_freeChunks]
  constructor
  · rintro ⟨j, high, inB⟩
    by_cases same : j = i
    · subst same
      exact .inl (by simpa using inB)
    · exact .inr ⟨j, high, same, by simpa [Function.update_of_ne same] using inB⟩
  · rintro (inl | ⟨j, high, other, inB⟩)
    · exact ⟨i, lt, by simpa using inl⟩
    · exact ⟨j, high, by simpa [Function.update_of_ne other] using inB⟩

theorem mem_freeChunks_orderedInsert (r : Nat → Nat → Prop) [DecidableRel r]
    (lt : i < mmNnodes) :
    b ∈ freeChunks (Function.update B i ((B i).orderedInsert r x)) ↔ b = x ∨ b ∈ freeChunks B := by
  rw [mem_freeChunks_update lt, List.mem_orderedInsert, mem_freeChunks]
  constructor
  · rintro ((here | inB) | ⟨j, high, -, inB⟩)
    · exact .inl here
    · exact .inr ⟨i, lt, inB⟩
    · exact .inr ⟨j, high, inB⟩
  · rintro (here | ⟨j, high, inB⟩)
    · exact .inl (.inl here)
    · by_cases same : j = i
      · subst same
        exact .inl (.inr inB)
      · exact .inr ⟨j, high, same, inB⟩

theorem mem_layout_orderedInsert (r : Nat → Nat → Prop) [DecidableRel r]
    (lt : i < mmNnodes) (mem : b ∈ layout h (Function.update B i ((B i).orderedInsert r x))) :
    b = x ∨ b ∈ layout h B := by
  rcases mem_layout_update lt mem with inserted | old
  · rcases (List.mem_orderedInsert r).mp inserted with here | inB
    · exact .inl here
    · exact .inr (mem_layout_of_mem lt inB)
  · exact .inr old

theorem head?_layoutFrom {n : Nat} (first : a ∈ (layoutFrom h B i n).head?) :
    a = h.node i ∧ 0 < n := by
  cases n with
  | zero => simp [layoutFrom] at first
  | succ n =>
    simp only [layoutFrom, List.head?_cons, Option.mem_def, Option.some.injEq] at first
    exact ⟨first.symm, Nat.succ_pos n⟩

theorem layout_erase_sublist :
    (layout h (Function.update B i ((B i).erase a))).Sublist (layout h B) := by
  refine layoutFrom_sublist fun j => ?_
  by_cases same : j = i
  · subst same
    rw [Function.update_self]
    exact List.erase_sublist
  · rw [Function.update_of_ne same]

/-! ## Edits of the links -/

theorem MmHeap.remove_agree {p : Nat} (back : h.links.blink a = some p) (ne : p ≠ a)
    (q : Queue Nat) :
    ∃ L, h.remove a = some { h with links := L } ∧
      ∀ b, b ≠ a → L.flink b = (unsplice a h.links q).1.flink b ∧
        L.blink b = (unsplice a h.links q).1.blink b := by
  cases fwd : h.links.flink a with
  | none =>
    refine ⟨h.links.setFlink p none, ?_, fun b other => ?_⟩
    · simp [MmHeap.remove, back, fwd]
    · rw [unsplice_flink, unsplice_blink]
      by_cases bp : b = p <;> simp [other, back, fwd, bp, ne]
  | some n =>
    refine ⟨(h.links.setFlink p (some n)).setBlink n (some p), ?_, fun b other => ?_⟩
    · simp [MmHeap.remove, back, fwd]
    · rw [unsplice_flink, unsplice_blink]
      by_cases bn : b = n
      · subst bn
        by_cases bp : b = p <;> simp [other, back, fwd, bp, ne]
      · by_cases bp : b = p <;> simp [other, back, fwd, bp, bn, ne]

theorem MmHeap.insertAfter_eq {prev : Nat} {next : Option Nat} (ne : prev ≠ x)
    (q : Queue Nat) :
    h.insertAfter prev x next = { h with links := (splice (some prev) x next h.links q).1 } := by
  cases next <;> simp [MmHeap.insertAfter, splice, Links.setFlink, Links.setBlink, Function.update_comm ne]

/-- The loop of `mm_addfreechunk` along a stretch: past the nodes that pass its test, up to
the first that does not. -/
theorem addLoop_spec {z : Nat} : ∀ {p fuel : Nat} {l r : List Nat},
    Chain h.links (some p) (l ++ r) none →
    (∀ a ∈ l, (h.hdr a).size ≠ 0 ∧ (h.hdr a).size < z) →
    (∀ a ∈ r.head?, ¬((h.hdr a).size ≠ 0 ∧ (h.hdr a).size < z)) →
    l.length < fuel →
    addLoop h z fuel p (l ++ r).head? = some ((p :: l).getLast (List.cons_ne_nil p l), r.head?)
  | p, fuel, [], r, _, _, stop, enough => by
    obtain ⟨fuel, rfl⟩ : ∃ f, fuel = f + 1 := ⟨fuel - 1, by simp at enough; omega⟩
    cases first : r.head? with
    | none =>
      rw [List.nil_append, first]
      rfl
    | some a =>
      rw [List.nil_append, first, addLoop, if_neg (stop a first)]
      rfl
  | p, fuel, a :: l, r, chain, pass, stop, enough => by
    obtain ⟨fuel, rfl⟩ : ∃ f, fuel = f + 1 := ⟨fuel - 1, by simp at enough; omega⟩
    obtain ⟨-, fwd, rest⟩ := chain
    have fwd : h.links.flink a = (l ++ r).head? := by rw [fwd]; cases (l ++ r).head? <;> rfl
    rw [List.cons_append, List.head?_cons, addLoop, if_pos (pass a List.mem_cons_self), fwd,
      addLoop_spec rest (fun b mem => pass b (List.mem_cons_of_mem a mem)) stop
        (by simpa using enough)]
    simp

namespace FreeList

variable (wf : FreeList h B)
include wf

theorem ordered : ∀ {i n : Nat}, i + n ≤ mmNnodes →
    (layoutFrom h B i n).Pairwise fun a b =>
      (h.hdr a).size ≠ 0 → (h.hdr b).size ≠ 0 → (h.hdr a).size ≤ (h.hdr b).size
  | _, 0, _ => List.Pairwise.nil
  | i, n + 1, within => by
    rw [layoutFrom, List.pairwise_cons, List.pairwise_append]
    refine ⟨fun _ _ empty => absurd (wf.sentinel i (by omega)) empty,
      (wf.sorted i (by omega)).imp fun le _ _ => le, ordered (by omega), ?_⟩
    intro a inB b later _ nonzero
    obtain ⟨j, low, high, here | inBj⟩ := mem_layoutFrom.mp later
    · exact absurd (here ▸ wf.sentinel j (by omega)) nonzero
    · -- a chunk of a later class is larger
      apply Nat.le_of_lt
      apply lt_of_mmSize2ndx_lt
      rw [(wf.classed i (by omega) a inB).2, (wf.classed j (by omega) b inBj).2]
      omega

theorem walk_from (lt : ndx < mmNnodes) (test : Nat → Bool)
    (enough : (layout h B).length ≤ fuel) :
    h.links.walk test fuel (h.links.flink (h.node ndx)) =
      some ((suffix h B ndx).find? fun a => !test a) := by
  have chain := wf.chain
  rw [layout_split lt, chain_append, chain_cons] at chain
  obtain ⟨-, -, fwd, rest⟩ := chain
  rw [fwd, Option.or_none]
  refine rest.walk test (Nat.le_trans ?_ enough)
  rw [layout_split lt]
  simp only [List.length_append, List.length_cons]
  omega

/-- A node after node `ndx` of the array with a positive size is a free chunk of class `ndx`
or above. -/
theorem chunk_of_mem_suffix (mem : a ∈ suffix h B ndx) (lt : ndx < mmNnodes)
    (nonzero : (h.hdr a).size ≠ 0) : ∃ j, ndx ≤ j ∧ j < mmNnodes ∧ a ∈ B j := by
  rcases List.mem_append.mp mem with inB | later
  · exact ⟨ndx, Nat.le_refl ndx, lt, inB⟩
  · obtain ⟨j, low, high, here | inBj⟩ := mem_layoutFrom.mp later
    · exact absurd (here ▸ wf.sentinel j (by omega)) nonzero
    · exact ⟨j, by omega, by omega, inBj⟩

theorem ordered_suffix (lt : ndx < mmNnodes) :
    (suffix h B ndx).Pairwise fun a b =>
      (h.hdr a).size ≠ 0 → (h.hdr b).size ≠ 0 → (h.hdr a).size ≤ (h.hdr b).size := by
  have whole := wf.ordered (i := ndx) (n := (mmNnodes - ndx - 1) + 1) (by omega)
  rw [layoutFrom] at whole
  exact whole.of_cons

theorem find_best (positive : 0 < s) :
    ((suffix h B (mmSize2ndx s)).find? (fun a => decide (s ≤ (h.hdr a).size))).isSome ↔
      ∃ b ∈ freeChunks B, s ≤ (h.hdr b).size := by
  have lt := mmSize2ndx_lt s
  constructor
  · intro found
    obtain ⟨a, mem, fits⟩ := List.find?_isSome.mp found
    have fits : s ≤ (h.hdr a).size := of_decide_eq_true fits
    obtain ⟨j, -, high, inB⟩ := wf.chunk_of_mem_suffix mem lt (by omega)
    exact ⟨a, mem_freeChunks.mpr ⟨j, high, inB⟩, fits⟩
  · rintro ⟨b, free, fits⟩
    obtain ⟨j, high, inB⟩ := mem_freeChunks.mp free
    have low : mmSize2ndx s ≤ j := (wf.classed j high b inB).2 ▸ mmSize2ndx_mono fits
    exact List.find?_isSome.mpr ⟨b, mem_suffix inB low high, decide_eq_true fits⟩

theorem found_best (positive : 0 < s)
    (found : (suffix h B (mmSize2ndx s)).find? (fun a => decide (s ≤ (h.hdr a).size)) = some a) :
    (∃ j < mmNnodes, a ∈ B j) ∧ s ≤ (h.hdr a).size ∧
      ∀ b ∈ freeChunks B, s ≤ (h.hdr b).size → (h.hdr a).size ≤ (h.hdr b).size := by
  have lt := mmSize2ndx_lt s
  obtain ⟨fits, before, after, split, skipped⟩ := List.find?_eq_some_iff_append.mp found
  have fits : s ≤ (h.hdr a).size := of_decide_eq_true fits
  have mem : a ∈ suffix h B (mmSize2ndx s) := by rw [split]; simp
  obtain ⟨j, -, high, inB⟩ := wf.chunk_of_mem_suffix mem lt (by omega)
  refine ⟨⟨j, high, inB⟩, fits, fun b free bFits => ?_⟩
  obtain ⟨k, kHigh, inBk⟩ := mem_freeChunks.mp free
  have low : mmSize2ndx s ≤ k := (wf.classed k kHigh b inBk).2 ▸ mmSize2ndx_mono bFits
  have bMem := mem_suffix (h := h) inBk low kHigh
  -- `b` is not skipped before `a`, so it is `a` or comes after it
  have notBefore : b ∉ before := fun inBefore => by
    have := skipped b inBefore
    simp [bFits] at this
  rw [split] at bMem
  rcases List.mem_append.mp bMem with inBefore | rest
  · exact absurd inBefore notBefore
  · rcases List.mem_cons.mp rest with same | later
    · rw [same]
    · have ordered := wf.ordered_suffix lt
      rw [split, List.pairwise_append, List.pairwise_cons] at ordered
      exact ordered.2.1.1 b later (by omega) (by omega)

theorem linked : ∃ q, Linked h.links q (layout h B) :=
  ⟨⟨(layout h B).head?, (layout h B).getLast?⟩, wf.chain, rfl, rfl, wf.nodup⟩

theorem class_unique {j : Nat} (hi : i < mmNnodes) (hj : j < mmNnodes) (inI : a ∈ B i)
    (inJ : a ∈ B j) : i = j :=
  (wf.classed i hi a inI).2.symm.trans (wf.classed j hj a inJ).2

theorem nodup_class (lt : i < mmNnodes) : (B i).Nodup := by
  have nodup := wf.nodup
  rw [layout_split lt] at nodup
  exact ((List.nodup_cons.mp (List.nodup_append.mp nodup).2.1).2).sublist
    (List.sublist_append_left _ _)

theorem mem_freeChunks_erase (lt : i < mmNnodes) (inB : a ∈ B i) :
    b ∈ freeChunks (Function.update B i ((B i).erase a)) ↔ b ∈ freeChunks B ∧ b ≠ a := by
  rw [mem_freeChunks_update lt, (wf.nodup_class lt).mem_erase_iff, mem_freeChunks]
  constructor
  · rintro (⟨other, inB⟩ | ⟨j, high, ji, inBj⟩)
    · exact ⟨⟨i, lt, inB⟩, other⟩
    · refine ⟨⟨j, high, inBj⟩, fun same => ji ?_⟩
      exact wf.class_unique high lt inBj (same ▸ inB)
  · rintro ⟨⟨j, high, inBj⟩, other⟩
    by_cases same : j = i
    · subst same
      exact .inl ⟨other, inBj⟩
    · exact .inr ⟨j, high, same, inBj⟩

theorem congr {h' : MmHeap} (links : h'.links = h.links) (nodelist : h'.nodelist = h.nodelist)
    (sizes : ∀ b ∈ layout h B, (h'.hdr b).size = (h.hdr b).size) : FreeList h' B := by
  have same : layout h' B = layout h B := layoutFrom_nodelist nodelist
  have node : ∀ i, h'.node i = h.node i := fun i => by rw [MmHeap.node, MmHeap.node, nodelist]
  refine ⟨?_, same ▸ wf.nodup, fun i lt => ?_, fun i lt a inB => ?_, fun i lt => ?_, ?_⟩
  · rw [same, links]
    exact wf.chain
  · rw [node, sizes _ (node_mem_layout lt)]
    exact wf.sentinel i lt
  · rw [sizes a (mem_layout_of_mem lt inB)]
    exact wf.classed i lt a inB
  · refine (wf.sorted i lt).imp_of_mem fun aIn bIn le => ?_
    rw [sizes _ (mem_layout_of_mem lt aIn), sizes _ (mem_layout_of_mem lt bIn)]
    exact le
  · intro a free b mem below
    obtain ⟨i, lt, inB⟩ := mem_freeChunks.mp free
    rw [sizes a (mem_layout_of_mem lt inB)]
    exact wf.apart a free b (same ▸ mem) below

theorem modifyHdr {f : Header → Header}
    (keep : a ∉ layout h B ∨ (f (h.hdr a)).size = (h.hdr a).size) :
    FreeList (h.modifyHdr a f) B := by
  refine wf.congr rfl rfl fun b mem => ?_
  by_cases same : b = a
  · subst same
    rcases keep with off | size
    · exact absurd mem off
    · simpa [MmHeap.modifyHdr] using size
  · simp [MmHeap.modifyHdr, Function.update_of_ne same]

/-! ## Edits of the list -/

theorem classes_update
    (classed : ∀ a ∈ l, 0 < (h.hdr a).size ∧ mmSize2ndx (h.hdr a).size = i)
    (sorted : l.Pairwise fun a b => (h.hdr a).size ≤ (h.hdr b).size) :
    (∀ j < mmNnodes, ∀ a ∈ Function.update B i l j,
        0 < (h.hdr a).size ∧ mmSize2ndx (h.hdr a).size = j) ∧
      ∀ j < mmNnodes,
        (Function.update B i l j).Pairwise fun a b => (h.hdr a).size ≤ (h.hdr b).size := by
  constructor
  · exact (Function.forall_update_iff B fun j l => j < mmNnodes →
      ∀ a ∈ l, 0 < (h.hdr a).size ∧ mmSize2ndx (h.hdr a).size = j).mpr
      ⟨fun _ => classed, fun j _ => wf.classed j⟩
  · exact (Function.forall_update_iff B fun j l => j < mmNnodes →
      l.Pairwise fun a b => (h.hdr a).size ≤ (h.hdr b).size).mpr
      ⟨fun _ => sorted, fun j _ => wf.sorted j⟩

theorem not_mem_layout_erase (lt : i < mmNnodes) (inB : a ∈ B i) :
    a ∉ layout h (Function.update B i ((B i).erase a)) := by
  intro mem
  obtain ⟨j, high, here | inB'⟩ := mem_layout.mp mem
  · -- the nodes of the array are empty, the chunk is not
    have := (wf.classed i lt a inB).1
    rw [here, wf.sentinel j high] at this
    exact Nat.lt_irrefl 0 this
  · by_cases same : j = i
    · subst same
      rw [Function.update_self] at inB'
      exact (wf.nodup_class lt).not_mem_erase inB'
    · rw [Function.update_of_ne same] at inB'
      exact same (wf.class_unique high lt inB' inB)

theorem remove (lt : i < mmNnodes) (inB : a ∈ B i) :
    ∃ L, h.remove a = some { h with links := L } ∧
      FreeList { h with links := L } (Function.update B i ((B i).erase a)) := by
  obtain ⟨s, t, split⟩ := List.append_of_mem inB
  have whole : layout h B = (layoutFrom h B 0 i ++ h.node i :: s) ++
      a :: (t ++ layoutFrom h B (i + 1) (mmNnodes - i - 1)) := by
    rw [layout_split lt, split]
    simp
  obtain ⟨q, linked⟩ := wf.linked
  rw [whole] at linked
  have notIn := (List.nodup_cons.mp (List.nodup_middle.mp linked.nodup)).1
  have erased : (B i).erase a = s ++ t := by
    rw [split, List.erase_append_right _ fun inS => notIn (by simp [inS]), List.erase_cons_head]
  have after : layout h (Function.update B i ((B i).erase a)) =
      (layoutFrom h B 0 i ++ h.node i :: s) ++ (t ++ layoutFrom h B (i + 1) (mmNnodes - i - 1)) := by
    rw [layout_update lt, erased]
    simp
  -- `a` has a predecessor: the list before it holds node `i` at least
  obtain ⟨p, last⟩ : ∃ p, (layoutFrom h B 0 i ++ h.node i :: s).getLast? = some p :=
    Option.isSome_iff_exists.mp (List.getLast?_isSome.mpr (by simp))
  have pa : p ≠ a := fun same => notIn (List.mem_append_left _ (List.mem_of_getLast? (same ▸ last)))
  obtain ⟨L, eq, agree⟩ := MmHeap.remove_agree (linked.blink_eq.trans last) pa q
  have unlinked := linked.unsplice
  have away : ∀ b ∈ (layoutFrom h B 0 i ++ h.node i :: s) ++
      (t ++ layoutFrom h B (i + 1) (mmNnodes - i - 1)), b ≠ a :=
    fun b mem same => notIn (same ▸ mem)
  -- the classes only lose `a`
  have classes := wf.classes_update (l := (B i).erase a)
    (fun b mem => wf.classed i lt b (List.mem_of_mem_erase mem))
    ((wf.sorted i lt).sublist List.erase_sublist)
  refine ⟨L, eq, ⟨?_, ?_, wf.sentinel, classes.1, classes.2, ?_⟩⟩
  · rw [layout_withLinks, after]
    exact unlinked.chain.congr (fun b mem => (agree b (away b mem)).1)
      (fun b mem => (agree b (away b mem)).2)
  · rw [layout_withLinks, after]
    exact unlinked.nodup
  · intro c free b mem below
    have cFree := ((wf.mem_freeChunks_erase lt inB).mp free).1
    rw [layout_withLinks] at mem
    exact wf.apart c cFree b (layout_erase_sublist.subset mem) below

theorem addLoop_class {c z : Nat} (lt : c < mmNnodes) {smaller larger : List Nat}
    (parts : B c = smaller ++ larger) (skip : ∀ y ∈ smaller, ¬z ≤ (h.hdr y).size)
    (stop : ∀ y ∈ larger.head?, z ≤ (h.hdr y).size) (enough : (layout h B).length ≤ fuel) :
    addLoop h z fuel (h.node c) (h.links.flink (h.node c)) =
      some ((h.node c :: smaller).getLast (List.cons_ne_nil _ _),
        (larger ++ layoutFrom h B (c + 1) (mmNnodes - c - 1)).head?) := by
  have chain := wf.chain
  rw [layout_split lt, chain_append, chain_cons, parts, List.append_assoc, Option.or_none] at chain
  obtain ⟨-, -, fwd, stretch⟩ := chain
  have pass : ∀ a ∈ smaller, (h.hdr a).size ≠ 0 ∧ (h.hdr a).size < z := by
    intro a mem
    have inB : a ∈ B c := by rw [parts]; exact List.mem_append_left _ mem
    have := (wf.classed c lt a inB).1
    have := skip a mem
    omega
  have halt : ∀ a ∈ (larger ++ layoutFrom h B (c + 1) (mmNnodes - c - 1)).head?,
      ¬((h.hdr a).size ≠ 0 ∧ (h.hdr a).size < z) := by
    intro a first
    cases larger with
    | nil =>
      -- no larger chunk in the class: the next node of the array, of size 0
      obtain ⟨rfl, more⟩ := head?_layoutFrom first
      rw [wf.sentinel (c + 1) (by omega)]
      omega
    | cons y ys =>
      obtain rfl : y = a := by simpa using first
      have := stop y rfl
      omega
  have bound : smaller.length < fuel := by
    have := congrArg List.length (layout_split (h := h) (B := B) lt)
    rw [parts] at this
    simp only [List.length_append, List.length_cons] at this
    omega
  rw [fwd, Option.or_none]
  exact addLoop_spec stretch pass halt bound

theorem addfreechunk {x fuel : Nat} (fresh : x ∉ layout h B) (positive : 0 < (h.hdr x).size)
    (outside : ∀ b ∈ layout h B, x < b → x + (h.hdr x).size ≤ b)
    (clear : ∀ a ∈ freeChunks B, a < x → a + (h.hdr a).size ≤ x)
    (enough : (layout h B).length ≤ fuel) :
    ∃ L, mmAddfreechunk fuel h x = some { h with links := L } ∧
      FreeList { h with links := L } (Function.update B (mmSize2ndx (h.hdr x).size)
        ((B (mmSize2ndx (h.hdr x).size)).orderedInsert
          (fun a b => (h.hdr a).size ≤ (h.hdr b).size) x)) := by
  have lt : mmSize2ndx (h.hdr x).size < mmNnodes := mmSize2ndx_lt _
  generalize hc : mmSize2ndx (h.hdr x).size = c at lt ⊢
  obtain ⟨smaller, larger, parts, skip, stop, inserted⟩ := OrderedInsert.exists_orderedInsert_split
    (fun a b => (h.hdr a).size ≤ (h.hdr b).size) x (B c)
  have whole : layout h B = (layoutFrom h B 0 c ++ h.node c :: smaller) ++
      (larger ++ layoutFrom h B (c + 1) (mmNnodes - c - 1)) := by
    rw [layout_split lt, parts]
    simp
  have after : layout h (Function.update B c ((B c).orderedInsert
      (fun a b => (h.hdr a).size ≤ (h.hdr b).size) x)) = (layoutFrom h B 0 c ++ h.node c :: smaller) ++
      x :: (larger ++ layoutFrom h B (c + 1) (mmNnodes - c - 1)) := by
    rw [layout_update lt, inserted]
    simp
  have loop := wf.addLoop_class lt parts skip stop enough
  -- `x` goes in after the last of the smaller chunks, or after node `c` when there is none
  obtain ⟨q, linked⟩ := wf.linked
  rw [whole] at linked
  have spliced := linked.splice (whole ▸ fresh)
  have last : (layoutFrom h B 0 c ++ h.node c :: smaller).getLast? =
      some ((h.node c :: smaller).getLast (List.cons_ne_nil _ _)) := by
    rw [List.getLast?_append, List.getLast?_eq_some_getLast (List.cons_ne_nil _ _)]
    rfl
  rw [last] at spliced
  have prevNe : (h.node c :: smaller).getLast (List.cons_ne_nil _ _) ≠ x := by
    intro same
    apply fresh
    rw [whole, ← same]
    exact List.mem_append_left _ (List.mem_append_right _ (List.getLast_mem _))
  generalize (h.node c :: smaller).getLast (List.cons_ne_nil _ _) = prev at loop spliced prevNe
  refine ⟨(splice (some prev) x (larger ++ layoutFrom h B (c + 1) (mmNnodes - c - 1)).head?
    h.links q).1, ?_, ?_⟩
  · rw [mmAddfreechunk]
    simp only [hc, loop]
    exact congrArg some (MmHeap.insertAfter_eq prevNe q)
  -- class `c` gains `x`, of a positive size of class `c`, in order of size
  have classes := wf.classes_update
    (l := (B c).orderedInsert (fun a b => (h.hdr a).size ≤ (h.hdr b).size) x)
    (fun b mem => by
      rcases (List.mem_orderedInsert _).mp mem with rfl | old
      · exact ⟨positive, hc⟩
      · exact wf.classed c lt b old)
    (OrderedInsert.pairwise_orderedInsert _ x (B c) (wf.sorted c lt)
      (fun y _ le => le) (fun y _ notLe => Nat.le_of_lt (Nat.lt_of_not_le notLe))
      (fun y z le₁ le₂ => Nat.le_trans le₁ le₂))
  refine ⟨?_, ?_, wf.sentinel, classes.1, classes.2, ?_⟩
  · rw [layout_withLinks, after]
    exact spliced.chain
  · rw [layout_withLinks, after]
    exact spliced.nodup
  · intro a free b mem below
    rw [layout_withLinks] at mem
    rcases (mem_freeChunks_orderedInsert _ lt).mp free with rfl | aFree <;>
      rcases mem_layout_orderedInsert _ lt mem with rfl | bMem
    · exact absurd below (Nat.lt_irrefl _)
    · exact outside b bMem below
    · exact clear a aFree below
    · exact wf.apart a aFree b bMem below

/-- What `mm_malloc` does to the free chunk `a` of class `i` it found, for a chunk size `s` that
`a` holds: `a` is allocated, of size `s` when the surplus can be a free node, which is then
listed as a free chunk, and of its whole size otherwise. -/
theorem mallocTake_spec {i a s fuel : Nat} (lt : i < mmNnodes) (inB : a ∈ B i)
    (positive : 0 < s) (fits : s ≤ (h.hdr a).size) (enough : (layout h B).length ≤ fuel) :
    ∃ h' B', mallocTake fuel h a s = some h' ∧ FreeList h' B' ∧ (h'.hdr a).allocated ∧
      (h'.hdr a).size = (if sizeofMmFreenode ≤ (h.hdr a).size - s then s else (h.hdr a).size) ∧
      (sizeofMmFreenode ≤ (h.hdr a).size - s → (h'.hdr (a + s)).size = (h.hdr a).size - s) ∧
      ∀ b, b ∈ freeChunks B' ↔ (b ∈ freeChunks B ∧ b ≠ a) ∨
        (sizeofMmFreenode ≤ (h.hdr a).size - s ∧ b = a + s) := by
  obtain ⟨L, removed, listed⟩ := wf.remove lt inB
  have aFree : a ∈ freeChunks B := mem_freeChunks.mpr ⟨i, lt, inB⟩
  by_cases split : sizeofMmFreenode ≤ (h.hdr a).size - s
  · -- the remainder `a + s` lies inside `a`, so off the list and clear of every free chunk
    have room : s + sizeofMmFreenode ≤ (h.hdr a).size := by omega
    have inside : ∀ b ∈ layout h B, a < b → a + (h.hdr a).size ≤ b := wf.apart a aFree
    have off : a + s ∉ layout h (Function.update B i ((B i).erase a)) := fun mem => by
      have := inside _ (layout_erase_sublist.subset mem) (by unfold sizeofMmFreenode at room; omega)
      unfold sizeofMmFreenode at room
      omega
    have listed₄ := ((listed.modifyHdr (f := fun _ => ⟨(h.hdr a).size - s, s, false⟩)
      (.inl (by simpa using off))).modifyHdr (f := fun x => { x with size := s })
      (.inl (by simpa using wf.not_mem_layout_erase lt inB))).modifyHdr
      (a := a + (h.hdr a).size) (f := fun x => { x with preceding := (h.hdr a).size - s }) (.inr rfl)
    set h₄ := (({ h with links := L }.modifyHdr (a + s) fun _ => ⟨(h.hdr a).size - s, s, false⟩).modifyHdr
      a fun x => { x with size := s }).modifyHdr (a + (h.hdr a).size)
      fun x => { x with preceding := (h.hdr a).size - s } with h₄_eq
    have remainder : h₄.hdr (a + s) = ⟨(h.hdr a).size - s, s, false⟩ := by
      have beyond : a + s ≠ a + (h.hdr a).size := by unfold sizeofMmFreenode at room; omega
      have past : a + s ≠ a := by omega
      simp only [h₄_eq, MmHeap.hdr_modifyHdr, if_neg beyond, if_neg past, ↓reduceIte]
    have sizes : ∀ c, c ≠ a → c ≠ a + s → (h₄.hdr c).size = (h.hdr c).size := by
      intro c other notRemainder
      by_cases beyond : c = a + (h.hdr a).size
      · subst beyond
        simp only [h₄_eq, MmHeap.hdr_modifyHdr, ↓reduceIte, if_neg other, if_neg notRemainder]
      · simp only [h₄_eq, MmHeap.hdr_modifyHdr, if_neg beyond, if_neg other, if_neg notRemainder]
    have sameLayout : layout h₄ (Function.update B i ((B i).erase a)) =
        layout h (Function.update B i ((B i).erase a)) := by
      rw [h₄_eq]
      simp
    obtain ⟨L', added, listed₅⟩ := listed₄.addfreechunk (x := a + s)
      (sameLayout ▸ off)
      (by
        rw [remainder]
        show 0 < (h.hdr a).size - s
        unfold sizeofMmFreenode at room
        omega)
      (fun b mem beyond => by
        have := inside b (layout_erase_sublist.subset (sameLayout ▸ mem)) (by omega)
        rw [remainder]
        show a + s + ((h.hdr a).size - s) ≤ b
        omega)
      (fun c free below => by
        obtain ⟨cFree, other⟩ := (wf.mem_freeChunks_erase lt inB).mp free
        obtain ⟨j, high, inBj⟩ := mem_freeChunks.mp free
        have notRemainder : c ≠ a + s := fun same => off (same ▸ mem_layout_of_mem high inBj)
        rw [sizes c other notRemainder]
        obtain ⟨k, kHigh, inBk⟩ := mem_freeChunks.mp cFree
        rcases Nat.lt_or_gt_of_ne other with before | after
        · have := wf.apart c cFree a (mem_layout_of_mem lt inB) before
          omega
        · have := inside c (mem_layout_of_mem kHigh inBk) after
          omega)
      (sameLayout ▸ layout_erase_sublist.length_le.trans enough)
    refine ⟨({ h₄ with links := L' }).modifyHdr a fun x => { x with allocated := true }, _, ?_,
      listed₅.modifyHdr (.inr rfl), by simp, ?_, fun _ => ?_, fun b => ?_⟩
    · rw [mallocTake, removed]
      simp only [Option.bind_eq_bind, Option.bind_some]
      rw [if_pos split]
      change (mmAddfreechunk fuel h₄ (a + s)).bind _ = _
      rw [added]
      rfl
    · have whole : a ≠ a + (h.hdr a).size := by omega
      rw [if_pos split]
      simp only [MmHeap.hdr_modifyHdr, ↓reduceIte]
      simp only [h₄_eq, MmHeap.hdr_modifyHdr, if_neg whole, ↓reduceIte]
    · have past : a + s ≠ a := by omega
      simp only [MmHeap.hdr_modifyHdr, if_neg past]
      rw [remainder]
    · rw [mem_freeChunks_orderedInsert _ (mmSize2ndx_lt _), wf.mem_freeChunks_erase lt inB]
      simp only [split, true_and]
      exact Or.comm
  · refine ⟨({ h with links := L }).modifyHdr a fun x => { x with allocated := true },
      Function.update B i ((B i).erase a), ?_, listed.modifyHdr (.inr rfl), by simp,
      by simp [split], fun much => absurd much split, fun b => ?_⟩
    · rw [mallocTake, removed]
      simp [split]
    · rw [wf.mem_freeChunks_erase lt inB]
      simp [split]

end FreeList

/-! ## The heap `mm_initialize` makes -/

/-- The one free chunk of `initialHeap`: 1008 bytes at `0x1008`, in class 5. -/
def initialFree (i : Nat) : List Nat := if i = 5 then [0x1008] else []

theorem initialHeap_freeList : FreeList initialHeap initialFree where
  chain := by decide +kernel
  nodup := by decide +kernel
  sentinel := by decide +kernel
  classed := by decide +kernel
  sorted := by decide +kernel
  apart := by decide +kernel

/-! ## Best fit -/

/-- `mm_malloc` is best fit. On a heap whose free list holds the chunks `B`, for a request
`n ≥ 1` whose chunk size `s` does not wrap, it returns a payload exactly when some free chunk
holds `s` bytes, and then takes a smallest such chunk; the chunk is cut to `s` bytes, and the rest
listed as a free chunk, exactly when the rest can be a free node. A `NULL` result leaves the
heap as it was. -/
theorem mmMalloc_best_fit {h : MmHeap} {B : Nat → List Nat} {fuel n : Nat} (wf : FreeList h B)
    (enough : (layout h B).length ≤ fuel) (positive : 1 ≤ n)
    (noWrap : n + sizeofMmAllocnode + mmGranMask < 2 ^ 32) :
    ∃ r h', mmMalloc fuel h n = some (r, h') ∧
      (r.isSome ↔ ∃ b ∈ freeChunks B, chunkSize n ≤ (h.hdr b).size) ∧
      (r = none → h' = h) ∧
      ∀ p ∈ r, ∃ a ∈ freeChunks B, p = a + sizeofMmAllocnode ∧
        chunkSize n ≤ (h.hdr a).size ∧
        (∀ b ∈ freeChunks B, chunkSize n ≤ (h.hdr b).size → (h.hdr a).size ≤ (h.hdr b).size) ∧
        (h'.hdr a).allocated ∧
        (h'.hdr a).size = (if sizeofMmFreenode ≤ (h.hdr a).size - chunkSize n then chunkSize n
          else (h.hdr a).size) ∧
        (sizeofMmFreenode ≤ (h.hdr a).size - chunkSize n →
          (h'.hdr (a + chunkSize n)).size = (h.hdr a).size - chunkSize n) ∧
        ∃ B', FreeList h' B' ∧ ∀ b, b ∈ freeChunks B' ↔ (b ∈ freeChunks B ∧ b ≠ a) ∨
          (sizeofMmFreenode ≤ (h.hdr a).size - chunkSize n ∧ b = a + chunkSize n) := by
  have sized : 0 < chunkSize n := Nat.lt_of_lt_of_le (by omega) (le_chunkSize noWrap)
  -- the walk from the node of the class of `s` is the search of `FreeList.find_best`
  have walk : h.links.walk (fun node => decide ((h.hdr node).size < chunkSize n)) fuel
      (h.links.flink (h.node (mmSize2ndx (chunkSize n)))) =
      some ((suffix h B (mmSize2ndx (chunkSize n))).find?
        fun a => decide (chunkSize n ≤ (h.hdr a).size)) := by
    rw [wf.walk_from (mmSize2ndx_lt _) _ enough]
    congr 2
    funext a
    simp only [← decide_not, Nat.not_lt]
  have search := wf.find_best sized
  unfold mmMalloc
  rw [if_neg (by omega)]
  simp only [mallocNdx_eq, walk]
  cases found : (suffix h B (mmSize2ndx (chunkSize n))).find?
      fun a => decide (chunkSize n ≤ (h.hdr a).size) with
  | none =>
    refine ⟨none, h, rfl, ?_, fun _ => rfl, by simp⟩
    rw [found] at search
    simpa using search
  | some a =>
    obtain ⟨⟨j, high, inB⟩, fits, best⟩ := wf.found_best sized found
    obtain ⟨h', B', take, listed, allocated, size, rest, members⟩ :=
      wf.mallocTake_spec high inB sized fits enough
    refine ⟨some (a + sizeofMmAllocnode), h', by simp [take], ?_, by simp, ?_⟩
    · rw [found] at search
      simpa using search
    · intro p mem
      obtain rfl : p = a + sizeofMmAllocnode := by simpa using mem.symm
      exact ⟨a, mem_freeChunks.mpr ⟨j, high, inB⟩, rfl, fits, best, allocated, size, rest,
        B', listed, members⟩

theorem mmMalloc_best_fit_initial :
    FreeList initialHeap initialFree ∧ (layout initialHeap initialFree).length ≤ 64 ∧
      ∃ r h', mmMalloc 64 initialHeap 17 = some (r, h') ∧
        (r.isSome ↔ ∃ b ∈ freeChunks initialFree, chunkSize 17 ≤ (initialHeap.hdr b).size) :=
  have ⟨r, h', run, found, _⟩ :=
    mmMalloc_best_fit initialHeap_freeList (by decide +kernel) (by decide) (by decide)
  ⟨initialHeap_freeList, by decide +kernel, r, h', run, found⟩

end TinyAra.Mm
