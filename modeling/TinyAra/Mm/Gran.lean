/-
# Mm.Gran -- the granule allocator of mm_gran

A granule heap (`struct gran_s`) hands out runs of at most 32 granules of `2 ^ log2gran` bytes
from `heapstart` on. Its granule allocation table `gat` holds one bit per granule, set when the
granule is allocated: granule `n` is bit `n % 32` of word `n / 32`.

This module embeds, under their names, `gran_mark_allocated`, `gran_common_alloc`,
`gran_common_free` and `gran_common_reserve`. The words of the table are `uint32_t`; `gat` gives
the word at every index, also past the table, since `gran_common_alloc` reads the word after
the last one. Addresses and sizes are 32-bit (`sizeT`). The critical sections and
`DEBUGASSERT`s are left out.

* `granMarkAllocated` sets exactly the bits of the granules it is given, in one word or across
  the boundary of two (`allocated_granMarkAllocated`); its masks are read granule by granule
  once for a run across two words (`crossing_run`) and for one in a single word (`fitting_run`);
* the search of `gran_common_alloc` moves its candidate address `alloc` with the window over the
  table, but does not set it back to the start of the next word when it leaves a word early:
  on a table whose first word ends in allocated granules it returns granules that are already
  allocated (`gran_alloc_returns_allocated_granules`);
* `gran_common_reserve` rounds the last address up to a granule boundary before it counts, so
  it marks one granule more than the range covers whenever that address is not on a boundary
  (`granCommonReserve_marks`, `gran_reserve_marks_extra_granule`).
-/
import TinyAra.Mm.FreeList

namespace TinyAra.Mm.Gran

open TinyAra.Mm

set_option autoImplicit false

/-- `struct gran_s`, with the words of memory from `gat[0]` on. -/
structure GranS where
  log2gran : Nat
  ngranules : Nat
  heapstart : Nat
  gat : Nat → UInt32

namespace GranS

def setGat (priv : GranS) (i : Nat) (v : UInt32) : GranS :=
  { priv with gat := Function.update priv.gat i v }

/-- Whether granule `n` is marked allocated. -/
def allocated (priv : GranS) (n : Nat) : Bool := (priv.gat (n / 32)).toBitVec.getLsbD (n % 32)

end GranS

/-! ## Marking and freeing -/

/-- `gran_mark_allocated(priv, alloc, ngranules)`: the bits of the granules from the one at
`alloc` on, in its word and, when they do not fit, in the next. -/
def granMarkAllocated (priv : GranS) (alloc ngranules : Nat) : GranS :=
  let granno := sizeT (alloc - priv.heapstart) >>> priv.log2gran
  let gatidx := granno >>> 5
  let gatbit := granno &&& 31
  let avail := 32 - gatbit
  if ngranules > avail then
    let gatmask : UInt32 := 0xffffffff <<< gatbit.toUInt32
    let priv := priv.setGat gatidx (priv.gat gatidx ||| gatmask)
    let ngranules := ngranules - avail
    let gatmask : UInt32 := 0xffffffff >>> (32 - ngranules).toUInt32
    priv.setGat (gatidx + 1) (priv.gat (gatidx + 1) ||| gatmask)
  else
    let gatmask : UInt32 := (0xffffffff >>> (32 - ngranules).toUInt32) <<< gatbit.toUInt32
    priv.setGat gatidx (priv.gat gatidx ||| gatmask)

/-- `gran_common_free(priv, memory, size)`: the bits of the granules of a run of `size` bytes
at `memory` cleared, as `gran_mark_allocated` set them. -/
def granCommonFree (priv : GranS) (memory size : Nat) : GranS :=
  let granno := sizeT (memory - priv.heapstart) >>> priv.log2gran
  let gatidx := granno >>> 5
  let gatbit := granno &&& 31
  let granmask := 2 ^ priv.log2gran - 1
  let ngranules := sizeT (size + granmask) >>> priv.log2gran
  let avail := 32 - gatbit
  if ngranules > avail then
    let gatmask : UInt32 := 0xffffffff <<< gatbit.toUInt32
    let priv := priv.setGat gatidx (priv.gat gatidx &&& ~~~gatmask)
    let ngranules := ngranules - avail
    let gatmask : UInt32 := 0xffffffff >>> (32 - ngranules).toUInt32
    priv.setGat (gatidx + 1) (priv.gat (gatidx + 1) &&& ~~~gatmask)
  else
    let gatmask : UInt32 := (0xffffffff >>> (32 - ngranules).toUInt32) <<< gatbit.toUInt32
    priv.setGat gatidx (priv.gat gatidx &&& ~~~gatmask)

/-- `gran_common_reserve(priv, start, size)`: the start aligned down and the last address
aligned up to a granule, and the granules from the one to the other marked. -/
def granCommonReserve (priv : GranS) (start size : Nat) : GranS :=
  if size > 0 then
    let mask := 2 ^ priv.log2gran - 1
    let endAddr := sizeT (start + size - 1)
    let start := start &&& complement mask
    let endAddr := sizeT (endAddr + mask) &&& complement mask
    let ngranules := (sizeT (endAddr - start) >>> priv.log2gran) + 1
    granMarkAllocated priv start ngranules
  else priv

/-! ## `gran_common_alloc` -/

/-- The window of the search moved on by `shift` granules: `curr = (curr >> shift) |
(next << (32 - shift)); next >>= shift;`. -/
def shiftWindow (curr next : UInt32) (shift : Nat) : UInt32 × UInt32 :=
  ((curr >>> shift.toUInt32) ||| (next <<< (32 - shift).toUInt32), next >>> shift.toUInt32)

/-- The inner loop of `gran_common_alloc` over the word of granule `granidx`: `.inl alloc` when
the run fits at `alloc`, `.inr alloc` when the loop ends with the candidate at `alloc`. Each
round moves `bitidx` on by at least one, so 32 rounds reach the end of the word. -/
def wordLoop (priv : GranS) (ngranules : Nat) (mask : UInt32) (granidx : Nat) :
    Nat → Nat → UInt32 → UInt32 → Nat → Nat ⊕ Nat
  | 0, alloc, _, _, _ => .inr alloc
  | fuel + 1, alloc, curr, next, bitidx =>
    let step (shift : Nat) : Nat ⊕ Nat :=
      let (curr, next) := shiftWindow curr next shift
      wordLoop priv ngranules mask granidx fuel (alloc + (shift <<< priv.log2gran)) curr next
        (bitidx + shift)
    if bitidx < 32 ∧ granidx + bitidx + ngranules ≤ priv.ngranules then
      if curr = 0xffffffff then .inr alloc
      else if curr &&& 0x0000ffff = 0x0000ffff then step 16
      else if curr &&& 0x000000ff = 0x000000ff then step 8
      else if curr &&& 0x0000000f = 0x0000000f then step 4
      else if curr &&& 0x00000003 = 0x00000003 then step 2
      else if curr &&& mask = 0 then .inl alloc
      else step 1
    else .inr alloc

/-- The outer loop of `gran_common_alloc`, one word of the table a round, `words` rounds at
most; `alloc` goes on from where the round before left it. -/
def granLoop (priv : GranS) (ngranules : Nat) (mask : UInt32) :
    Nat → Nat → Nat → Option Nat
  | 0, _, _ => none
  | words + 1, granidx, alloc =>
    if granidx < priv.ngranules then
      let gatidx := granidx >>> 5
      let curr := priv.gat gatidx
      if curr = 0xffffffff then
        granLoop priv ngranules mask words (granidx + 32) (alloc + (32 <<< priv.log2gran))
      else
        -- `granidx < priv->ngranules` holds here, so the word after is always read
        let next : UInt32 := if granidx < priv.ngranules then priv.gat (gatidx + 1) else 0xffffffff
        match wordLoop priv ngranules mask granidx 32 alloc curr next 0 with
        | .inl alloc => some alloc
        | .inr alloc => granLoop priv ngranules mask words (granidx + 32) alloc
    else none

/-- `gran_common_alloc(priv, size)`: the address found and the table with its granules marked,
or `NULL` and the table as it was. -/
def granCommonAlloc (priv : GranS) (size : Nat) : Option Nat × GranS :=
  if size > 0 then
    let tmpmask := 2 ^ priv.log2gran - 1
    let ngranules := sizeT (size + tmpmask) >>> priv.log2gran
    let mask : UInt32 := 0xffffffff >>> (32 - ngranules).toUInt32
    match granLoop priv ngranules mask ((priv.ngranules + 31) / 32) 0 priv.heapstart with
    | some alloc => (some alloc, granMarkAllocated priv alloc ngranules)
    | none => (none, priv)
  else (none, priv)

/-! ## Masks -/

theorem allOnes_getLsbD (j : Nat) : (4294967295#32).getLsbD j = decide (j < 32) := by
  rw [show (4294967295#32) = BitVec.allOnes 32 by decide, BitVec.getLsbD_allOnes]

theorem highMask_getLsbD {b : Nat} (hb : b < 32) (i : Nat) :
    (((0xffffffff : UInt32) <<< b.toUInt32).toBitVec.getLsbD i) = decide (b ≤ i ∧ i < 32) := by
  simp [UInt32.toBitVec_shiftLeft, allOnes_getLsbD, Nat.mod_eq_of_lt hb]
  rw [Bool.eq_iff_iff]
  simp only [Bool.and_eq_true, Bool.not_eq_true', decide_eq_true_eq, decide_eq_false_iff_not]
  omega

theorem lowMask_getLsbD {m : Nat} (pos : 1 ≤ m) (le : m ≤ 32) (i : Nat) :
    (((0xffffffff : UInt32) >>> (32 - m).toUInt32).toBitVec.getLsbD i) = decide (i < m) := by
  simp [UInt32.toBitVec_shiftRight, allOnes_getLsbD, Nat.mod_eq_of_lt (show 32 - m < 32 by omega)]
  omega

theorem runMask_getLsbD {m b : Nat} (pos : 1 ≤ m) (le : m ≤ 32) (hb : b < 32) (i : Nat) :
    ((((0xffffffff : UInt32) >>> (32 - m).toUInt32) <<< b.toUInt32).toBitVec.getLsbD i) =
      decide (b ≤ i ∧ i < b + m ∧ i < 32) := by
  simp [UInt32.toBitVec_shiftLeft, UInt32.toBitVec_shiftRight, allOnes_getLsbD,
    Nat.mod_eq_of_lt hb, Nat.mod_eq_of_lt (show 32 - m < 32 by omega)]
  rw [Bool.eq_iff_iff]
  simp only [Bool.and_eq_true, Bool.not_eq_true', decide_eq_true_eq, decide_eq_false_iff_not]
  omega

/-! ## The table, granule by granule -/

namespace GranS

@[simp] theorem log2gran_setGat (priv : GranS) (i : Nat) (v : UInt32) :
    (priv.setGat i v).log2gran = priv.log2gran := rfl

@[simp] theorem ngranules_setGat (priv : GranS) (i : Nat) (v : UInt32) :
    (priv.setGat i v).ngranules = priv.ngranules := rfl

@[simp] theorem heapstart_setGat (priv : GranS) (i : Nat) (v : UInt32) :
    (priv.setGat i v).heapstart = priv.heapstart := rfl

@[simp] theorem gat_setGat (priv : GranS) (i j : Nat) (v : UInt32) :
    (priv.setGat i v).gat j = if j = i then v else priv.gat j :=
  Function.update_apply _ _ _ _

theorem allocated_setGat (priv : GranS) (i n : Nat) (v : UInt32) :
    (priv.setGat i v).allocated n =
      if n / 32 = i then v.toBitVec.getLsbD (n % 32) else priv.allocated n := by
  rw [allocated, gat_setGat]
  split <;> rfl

end GranS

def granno (priv : GranS) (alloc : Nat) : Nat := sizeT (alloc - priv.heapstart) >>> priv.log2gran

theorem shiftRight_five (g : Nat) : g >>> 5 = g / 32 := Nat.shiftRight_eq_div_pow g 5

theorem sizeT_sub_shiftRight {a b k : Nat} (small : (a - b) * 2 ^ k < 2 ^ 32) :
    sizeT (a * 2 ^ k - b * 2 ^ k) >>> k = a - b := by
  rw [← Nat.sub_mul, sizeT, Nat.mod_eq_of_lt small, Nat.shiftRight_eq_div_pow,
    Nat.mul_div_cancel _ (Nat.two_pow_pos k)]

theorem and_thirtyone (g : Nat) : g &&& 31 = g % 32 := Nat.and_two_pow_sub_one_eq_mod g 5

/-- One word of the bitmap against a run of granules: in the word the mask is the run, and
outside it the run has no granule. -/
theorem word_run (priv : GranS) {f : Bool → Bool → Bool} (keep : ∀ b, f b false = b)
    {n word : Nat} {inWord run : Prop} [Decidable inWord] [Decidable run]
    (same : n / 32 = word → (inWord ↔ run)) (outside : n / 32 ≠ word → ¬run) :
    (if n / 32 = word then f ((priv.gat word).toBitVec.getLsbD (n % 32)) (decide inWord)
      else priv.allocated n) = f (priv.allocated n) (decide run) := by
  by_cases here : n / 32 = word
  · rw [if_pos here, GranS.allocated, here]
    congr 1
    exact decide_eq_decide.mpr (same here)
  · rw [if_neg here, decide_eq_false (outside here), keep]

theorem crossing_run (priv : GranS) {f : Bool → Bool → Bool} (keep : ∀ b, f b false = b)
    {g k n : Nat} (cross : k > 32 - g % 32) (le : k ≤ 32) :
    (if n / 32 = g / 32 + 1 then
        f ((priv.gat (g / 32 + 1)).toBitVec.getLsbD (n % 32)) (decide (n % 32 < k - (32 - g % 32)))
      else if n / 32 = g / 32 then
        f ((priv.gat (g / 32)).toBitVec.getLsbD (n % 32)) (decide (g % 32 ≤ n % 32 ∧ n % 32 < 32))
      else priv.allocated n) =
      f (priv.allocated n) (decide (g ≤ n ∧ n < g + k)) := by
  by_cases second : n / 32 = g / 32 + 1
  · rw [if_pos second, GranS.allocated, second]
    congr 1
    exact decide_eq_decide.mpr (by omega)
  · rw [if_neg second]
    exact word_run priv keep (fun _ => by omega) (fun _ => by omega)

theorem fitting_run (priv : GranS) {f : Bool → Bool → Bool} (keep : ∀ b, f b false = b)
    {g k n : Nat} (fits : ¬k > 32 - g % 32) :
    (if n / 32 = g / 32 then
        f ((priv.gat (g / 32)).toBitVec.getLsbD (n % 32))
          (decide (g % 32 ≤ n % 32 ∧ n % 32 < g % 32 + k ∧ n % 32 < 32))
      else priv.allocated n) =
      f (priv.allocated n) (decide (g ≤ n ∧ n < g + k)) :=
  word_run priv keep (fun _ => by omega) (fun _ => by omega)

theorem allocated_granMarkAllocated (priv : GranS) (alloc k n : Nat) (pos : 1 ≤ k)
    (le : k ≤ 32) :
    (granMarkAllocated priv alloc k).allocated n =
      (priv.allocated n || decide (granno priv alloc ≤ n ∧ n < granno priv alloc + k)) := by
  unfold granMarkAllocated granno
  generalize sizeT (alloc - priv.heapstart) >>> priv.log2gran = g
  simp only [shiftRight_five, and_thirtyone]
  have bit : g % 32 < 32 := Nat.mod_lt g (by decide)
  split
  · -- the run crosses into the next word
    rename_i cross
    simp only [GranS.allocated_setGat, GranS.gat_setGat, UInt32.toBitVec_or, BitVec.getLsbD_or]
    rw [if_neg (Nat.succ_ne_self _), highMask_getLsbD bit, lowMask_getLsbD (by omega) (by omega)]
    exact crossing_run priv Bool.or_false cross le
  · -- the run fits in one word
    rename_i fits
    simp only [GranS.allocated_setGat, UInt32.toBitVec_or, BitVec.getLsbD_or]
    rw [runMask_getLsbD pos le bit]
    exact fitting_run priv Bool.or_false fits

/-! ## The search -/

def runFree (priv : GranS) (i k : Nat) : Bool := (List.range k).all fun j => !priv.allocated (i + j)

/-- What the search of `gran_common_alloc` is for: the lowest granule `i`, with the run within
the heap, from which `k` granules are free. -/
def lowestRun (priv : GranS) (k : Nat) : Option Nat :=
  (List.range (priv.ngranules + 1 - k)).find? fun i => runFree priv i k

/-- A table of three words of granules of 16 bytes at `0x1000`: granule 0 free, granules 1 to
32 allocated, and the rest free. -/
def splitGat : GranS :=
  ⟨4, 96, 0x1000, fun i => if i = 0 then 0xfffffffe else if i = 1 then 1 else 0⟩

/-- For two granules, the lowest free run of `splitGat` starts at granule 33. The search shifts
the first word once, finds it all ones and leaves it with `alloc` at granule 1; it starts the
second word from there, shifts once more and finds granules 33 and 34 free with `alloc` at
granule 2. So `gran_alloc` returns granule 2, which is allocated, as is granule 3, and marks
nothing new. -/
theorem gran_alloc_returns_allocated_granules :
    lowestRun splitGat 2 = some 33 ∧
      splitGat.allocated 2 = true ∧ splitGat.allocated 3 = true ∧
      (granCommonAlloc splitGat 32).1 = some (splitGat.heapstart + (2 <<< splitGat.log2gran)) ∧
      (granCommonAlloc splitGat 32).2.gat 0 = splitGat.gat 0 :=
  ⟨by decide, by decide, by decide, by decide, by decide⟩

/-! ## Reserving -/

theorem granCommonReserve_marks (priv : GranS) (start size n : Nat) (positive : 0 < size)
    (small : priv.log2gran ≤ 32) (aligned : priv.heapstart % 2 ^ priv.log2gran = 0)
    (inside : priv.heapstart ≤ start) (noWrap : start + size + 2 ^ priv.log2gran < 2 ^ 32)
    (fits : (start + size - 1 + (2 ^ priv.log2gran - 1)) / 2 ^ priv.log2gran -
      start / 2 ^ priv.log2gran + 1 ≤ 32) :
    (granCommonReserve priv start size).allocated n =
      (priv.allocated n || decide ((start - priv.heapstart) / 2 ^ priv.log2gran ≤ n ∧
        n ≤ (start + size - 1 - priv.heapstart + (2 ^ priv.log2gran - 1)) / 2 ^ priv.log2gran)) := by
  unfold granCommonReserve
  rw [if_pos positive]
  dsimp only
  obtain ⟨H, hs⟩ : ∃ H, priv.heapstart = 2 ^ priv.log2gran * H :=
    ⟨priv.heapstart / 2 ^ priv.log2gran, (Nat.mul_div_cancel' (Nat.dvd_of_mod_eq_zero aligned)).symm⟩
  have gpos : 0 < 2 ^ priv.log2gran := Nat.two_pow_pos _
  have mask : 2 ^ priv.log2gran - 1 + 1 = 2 ^ priv.log2gran := Nat.sub_add_cancel gpos
  -- both ends aligned: down for the start, up for the last byte
  have startMask : start &&& complement (2 ^ priv.log2gran - 1) =
      start / 2 ^ priv.log2gran * 2 ^ priv.log2gran := and_complement (by omega) small
  have endMask : sizeT (sizeT (start + size - 1) + (2 ^ priv.log2gran - 1)) &&&
      complement (2 ^ priv.log2gran - 1) = (start + size - 1 + (2 ^ priv.log2gran - 1)) /
        2 ^ priv.log2gran * 2 ^ priv.log2gran := by
    have last : sizeT (start + size - 1) = start + size - 1 := Nat.mod_eq_of_lt (by omega)
    rw [last, sizeT, Nat.mod_eq_of_lt (by omega)]
    exact and_complement (by omega) small
  rw [startMask, endMask]
  generalize hE : start + size - 1 + (2 ^ priv.log2gran - 1) = E at fits endMask ⊢
  have startLow : H ≤ start / 2 ^ priv.log2gran :=
    (Nat.le_div_iff_mul_le gpos).mpr (by rw [Nat.mul_comm]; omega)
  have endHigh : start / 2 ^ priv.log2gran ≤ E / 2 ^ priv.log2gran :=
    Nat.div_le_div_right (by omega)
  have endLt : E < 2 ^ 32 := by omega
  -- the number of granules is the distance of the two aligned ends
  have span : sizeT (E / 2 ^ priv.log2gran * 2 ^ priv.log2gran -
      start / 2 ^ priv.log2gran * 2 ^ priv.log2gran) >>> priv.log2gran =
      E / 2 ^ priv.log2gran - start / 2 ^ priv.log2gran := by
    apply sizeT_sub_shiftRight
    calc (E / 2 ^ priv.log2gran - start / 2 ^ priv.log2gran) * 2 ^ priv.log2gran
        ≤ E / 2 ^ priv.log2gran * 2 ^ priv.log2gran := Nat.mul_le_mul_right _ (Nat.sub_le _ _)
      _ ≤ E := Nat.div_mul_le_self E _
      _ < 2 ^ 32 := endLt
  -- the first granule is that of the aligned start
  have first : granno priv (start / 2 ^ priv.log2gran * 2 ^ priv.log2gran) =
      start / 2 ^ priv.log2gran - H := by
    unfold granno
    rw [hs, Nat.mul_comm (2 ^ priv.log2gran) H]
    apply sizeT_sub_shiftRight
    calc (start / 2 ^ priv.log2gran - H) * 2 ^ priv.log2gran
        ≤ start / 2 ^ priv.log2gran * 2 ^ priv.log2gran := Nat.mul_le_mul_right _ (Nat.sub_le _ _)
      _ ≤ start := Nat.div_mul_le_self start _
      _ < 2 ^ 32 := by omega
  have firstRange : (start - priv.heapstart) / 2 ^ priv.log2gran = start / 2 ^ priv.log2gran - H := by
    rw [hs, Nat.sub_mul_div]
  have lastRange : (start + size - 1 - priv.heapstart + (2 ^ priv.log2gran - 1)) / 2 ^ priv.log2gran =
      E / 2 ^ priv.log2gran - H := by
    rw [hs, show start + size - 1 - 2 ^ priv.log2gran * H + (2 ^ priv.log2gran - 1) =
      E - 2 ^ priv.log2gran * H by omega, Nat.sub_mul_div]
  rw [span, allocated_granMarkAllocated _ _ _ _ (by omega) fits, first, firstRange, lastRange]
  congr 1
  exact decide_eq_decide.mpr (by omega)

theorem granCommonReserve_marks_page :
    (granCommonReserve ⟨6, 64, 4096, fun _ => 0⟩ 4160 100).allocated 2 =
      ((⟨6, 64, 4096, fun _ => 0⟩ : GranS).allocated 2 || decide ((4160 - 4096) / 2 ^ 6 ≤ 2 ∧
        2 ≤ (4160 + 100 - 1 - 4096 + (2 ^ 6 - 1)) / 2 ^ 6)) :=
  granCommonReserve_marks ⟨6, 64, 4096, fun _ => 0⟩ 4160 100 2 (by decide) (by decide) (by decide)
    (by decide) (by decide) (by decide)

def emptyGat : GranS := ⟨4, 96, 0, fun _ => 0⟩

/-- `gran_reserve(0, 2)` covers bytes 0 and 1, both in granule 0, and marks granules 0 and 1.
And `gran_free` of the run `gran_alloc` returned on `splitGat`, with its size, clears granules
2 and 3, which were allocated before the allocation, so the table does not come back. -/
theorem gran_reserve_marks_extra_granule :
    (0 + 2 - 1 - emptyGat.heapstart) / 2 ^ emptyGat.log2gran = 0 ∧
      (granCommonReserve emptyGat 0 2).allocated 0 = true ∧
      (granCommonReserve emptyGat 0 2).allocated 1 = true ∧
      (granCommonAlloc splitGat 32).1 = some 0x1020 ∧
      (granCommonFree (granCommonAlloc splitGat 32).2 0x1020 32).gat 0 = 0xfffffff2 ∧
      splitGat.gat 0 = 0xfffffffe :=
  ⟨by decide, by decide, by decide, by decide, by decide, by decide⟩

end TinyAra.Mm.Gran
