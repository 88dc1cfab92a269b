/-
# Fs.SmartCount -- the packed erase-block counts of SMART

With `CONFIG_MTD_SMART_PACK_COUNTS` and at most 16 sectors per erase block, two blocks share
a byte of a count array: block `b` has the low nibble of byte `b >> 1` when it is odd and the
high nibble when it is even (`smart_set_count`, `smart_get_count`). With 16 sectors per block
the count 16 needs a fifth bit, kept in a bit table that starts at byte `neraseblocks >> 1`.
`smart_setsectorsize` (`CONFIG_MTD_SMART_MINIMIZE_RAM`) puts `releasecount` first and
`freecount` `freecountOffset` bytes after it, in `countsAllocsize` bytes.

* `smartGetCount_setCount_self`: below 16 sectors per block, and with 16 for an even number of
  blocks, the array reads back the count set in a block;
* `smart_counts_not_an_array`: for 5 erase blocks of 16 sectors the bit table starts in the
  byte of block 4's nibble, so the count 16 set in block 4 reads back as 17; and with 8
  sectors per block the nibble of block 4 in `releasecount` is the first byte of `freecount`.
-/
import TinyAra.Fs.Smart
import Mathlib.Tactic.IntervalCases

namespace TinyAra.Fs.Smart

set_option autoImplicit false

/-! ## The shared bytes -/

/-- The byte `smart_set_count` stores for a block whose nibble is the low one (`odd`) or the
high one of `byte`. -/
def packNibble (byte count : UInt8) (odd : Bool) : UInt8 :=
  if odd then (byte &&& 0xF0) ||| (count &&& 0x0F)
  else (byte &&& 0x0F) ||| ((count &&& (0x0F : UInt8)) <<< (4 : UInt8))

/-- The nibble `smart_get_count` reads. -/
def readNibble (byte : UInt8) (odd : Bool) : UInt8 :=
  if odd then byte &&& 0x0F else byte >>> (4 : UInt8)

theorem readNibble_packNibble (byte count : UInt8) (odd : Bool) :
    readNibble (packNibble byte count odd) odd = count &&& 0x0F := by
  apply UInt8.toBitVec_inj.mp
  cases odd <;> simp only [readNibble, packNibble] <;> ext i hi <;> simp <;> interval_cases i <;> simp

theorem readNibble_packNibble_not (byte count : UInt8) (odd : Bool) :
    readNibble (packNibble byte count odd) (!odd) = readNibble byte (!odd) := by
  apply UInt8.toBitVec_inj.mp
  cases odd <;> simp only [readNibble, packNibble] <;> ext i hi <;> simp <;> interval_cases i <;> simp

theorem or_and_of_disjoint {x m m' : UInt8} (h : m &&& m' = 0) : (x ||| m) &&& m' = x &&& m' := by
  apply UInt8.toBitVec_inj.mp
  have hb : m.toBitVec &&& m'.toBitVec = 0#8 := by simpa using congrArg UInt8.toBitVec h
  simp only [UInt8.toBitVec_and, UInt8.toBitVec_or]
  ext i hi
  have bit := congrArg (fun v : BitVec 8 => v[i]) hb
  simp only [BitVec.getElem_and, BitVec.getElem_or, BitVec.getElem_zero] at bit ⊢
  revert bit
  cases x.toBitVec[i] <;> cases m.toBitVec[i] <;> cases m'.toBitVec[i] <;> simp

theorem and_not_and_of_disjoint {x m m' : UInt8} (h : m &&& m' = 0) :
    (x &&& ~~~m) &&& m' = x &&& m' := by
  apply UInt8.toBitVec_inj.mp
  have hb : m.toBitVec &&& m'.toBitVec = 0#8 := by simpa using congrArg UInt8.toBitVec h
  simp only [UInt8.toBitVec_and, UInt8.toBitVec_not]
  ext i hi
  have bit := congrArg (fun v : BitVec 8 => v[i]) hb
  simp only [BitVec.getElem_and, BitVec.getElem_not, BitVec.getElem_zero] at bit ⊢
  revert bit
  cases x.toBitVec[i] <;> cases m.toBitVec[i] <;> cases m'.toBitVec[i] <;> simp

/-- The bit of block `block` in its byte of the bit table: `1 << (block & 0x07)`. -/
def tableBit (block : Nat) : UInt8 := 1 <<< (block &&& 0x07).toUInt8

theorem tableBit_eq (block : Nat) : tableBit block = 1 <<< (block % 8).toUInt8 := by
  rw [tableBit, show block &&& 0x07 = block % 8 from Nat.and_two_pow_sub_one_eq_mod block 3]

theorem bits_disjoint : ∀ j k : Fin 8, j ≠ k →
    ((1 : UInt8) <<< k.val.toUInt8) &&& ((1 : UInt8) <<< j.val.toUInt8) = 0 := by
  decide

theorem tableBit_disjoint {b b' : Nat} (ne : b % 8 ≠ b' % 8) : tableBit b &&& tableBit b' = 0 := by
  rw [tableBit_eq, tableBit_eq]
  exact bits_disjoint ⟨b' % 8, Nat.mod_lt _ (by decide)⟩ ⟨b % 8, Nat.mod_lt _ (by decide)⟩
    (fun same => ne (Fin.val_eq_of_eq same).symm)

theorem tableBit_ne_zero (block : Nat) : tableBit block ≠ 0 := by
  rw [tableBit_eq]
  have := Nat.mod_lt block (show 0 < 8 by decide)
  generalize block % 8 = k at *
  interval_cases k <;> decide

theorem or_and_self_mask (x m : UInt8) : (x ||| m) &&& m = m := by
  apply UInt8.toBitVec_inj.mp
  simp only [UInt8.toBitVec_and, UInt8.toBitVec_or]
  ext i hi
  simp only [BitVec.getElem_and, BitVec.getElem_or]
  cases x.toBitVec[i] <;> cases m.toBitVec[i] <;> rfl

theorem and_not_and_self (x m : UInt8) : (x &&& ~~~m) &&& m = 0 := by
  apply UInt8.toBitVec_inj.mp
  simp only [UInt8.toBitVec_and, UInt8.toBitVec_not, UInt8.toBitVec_zero]
  ext i hi
  simp only [BitVec.getElem_and, BitVec.getElem_not, BitVec.getElem_zero]
  cases x.toBitVec[i] <;> cases m.toBitVec[i] <;> rfl

/-! ## The counts -/

/-- Byte `(neraseblocks >> 1) + (block >> 3)`, which holds the bit for 16 of `block`. -/
def tableIndex (neraseblocks block : Nat) : Nat := (neraseblocks >>> 1) + (block >>> 3)

/-- `smart_set_count(dev, pCount, block, count)`, with `dev->sectorsPerBlk` and
`dev->geo.neraseblocks`; `pCount` is the byte array the pointer starts. -/
def smartSetCount (sectorsPerBlk neraseblocks : Nat) (pCount : Nat → UInt8) (block : Nat)
    (count : UInt8) : Nat → UInt8 :=
  if sectorsPerBlk > 16 then Function.update pCount block count
  else
    let pCount := Function.update pCount (block >>> 1)
      (packNibble (pCount (block >>> 1)) count (block &&& 0x01 = 1))
    if sectorsPerBlk = 16 then
      let i := tableIndex neraseblocks block
      Function.update pCount i
        (if count = 16 then pCount i ||| tableBit block else pCount i &&& ~~~tableBit block)
    else pCount

/-- `smart_get_count(dev, pCount, block)`. -/
def smartGetCount (sectorsPerBlk neraseblocks : Nat) (pCount : Nat → UInt8) (block : Nat) :
    UInt8 :=
  if sectorsPerBlk > 16 then pCount block
  else
    let count := readNibble (pCount (block >>> 1)) (block &&& 0x01 = 1)
    if sectorsPerBlk = 16 ∧ pCount (tableIndex neraseblocks block) &&& tableBit block ≠ 0 then
      count ||| 0x10
    else count

/-- `allocsize` in `smart_setsectorsize`: the bytes of both count arrays. -/
def countsAllocsize (sectorsPerBlk neraseblocks : Nat) : Nat :=
  if sectorsPerBlk > 16 then neraseblocks <<< 1
  else if sectorsPerBlk = 16 then neraseblocks + (neraseblocks >>> 2)
  else neraseblocks

/-- `dev->freecount - dev->releasecount`: the bytes `releasecount` has. -/
def freecountOffset (sectorsPerBlk neraseblocks : Nat) : Nat :=
  if sectorsPerBlk > 16 then neraseblocks
  else if sectorsPerBlk = 16 then (neraseblocks >>> 1) + (neraseblocks >>> 3)
  else neraseblocks >>> 1

theorem and_0x0F_of_lt {c : UInt8} (h : c.toNat < 16) : c &&& 0x0F = c := by
  apply UInt8.toNat_inj.mp
  rw [UInt8.toNat_and]
  show c.toNat &&& (2 ^ 4 - 1) = c.toNat
  rw [Nat.and_two_pow_sub_one_eq_mod]
  omega

section Laws

variable {sectorsPerBlk neraseblocks : Nat} (packed : sectorsPerBlk ≤ 16)
  (even : sectorsPerBlk = 16 → neraseblocks % 2 = 0)

include even in
/-- For an even number of blocks the nibbles lie below the bit table. -/
theorem nibble_ne_tableIndex {b : Nat} (within : b < neraseblocks) (sixteen : sectorsPerBlk = 16)
    (b' : Nat) : b >>> 1 ≠ tableIndex neraseblocks b' := by
  have := even sixteen
  simp only [tableIndex, Nat.shiftRight_eq_div_pow]
  omega

include packed even in
/-- The nibble of a block after a set: the count set, or the one it had. -/
theorem readNibble_setCount {block block' : Nat} (within' : block' < neraseblocks) (count : UInt8)
    (pCount : Nat → UInt8) :
    readNibble (smartSetCount sectorsPerBlk neraseblocks pCount block count (block' >>> 1))
        (block' &&& 0x01 = 1) =
      if block' = block then count &&& 0x0F
      else readNibble (pCount (block' >>> 1)) (block' &&& 0x01 = 1) := by
  have notWide : ¬ sectorsPerBlk > 16 := by omega
  have nibble : Function.update pCount (block >>> 1)
      (packNibble (pCount (block >>> 1)) count (block &&& 0x01 = 1)) (block' >>> 1) =
      smartSetCount sectorsPerBlk neraseblocks pCount block count (block' >>> 1) := by
    by_cases sixteen : sectorsPerBlk = 16
    · simp only [smartSetCount, if_neg notWide, if_pos sixteen]
      rw [Function.update_of_ne (nibble_ne_tableIndex even within' sixteen block)]
    · simp only [smartSetCount, if_neg notWide, if_neg sixteen]
  rw [← nibble]
  split_ifs with same
  · rw [same, Function.update_self, readNibble_packNibble]
  by_cases shared : block' >>> 1 = block >>> 1
  · -- the other block of the byte: its parity is the other one
    have flip : decide (block' &&& 0x01 = 1) = !decide (block &&& 0x01 = 1) := by
      simp only [Nat.shiftRight_eq_div_pow] at shared
      simp only [Nat.and_one_is_mod]
      rcases Nat.mod_two_eq_zero_or_one block with h | h <;>
        rcases Nat.mod_two_eq_zero_or_one block' with h' | h' <;> simp [h, h'] <;> omega
    rw [shared, Function.update_self, flip, readNibble_packNibble_not]
  · rw [Function.update_of_ne shared]

include even in
/-- The bit for 16 of a block after a set with 16 sectors per block. -/
theorem tableBit_setCount (sixteen : sectorsPerBlk = 16) {block block' : Nat}
    (within : block < neraseblocks) (count : UInt8) (pCount : Nat → UInt8) :
    smartSetCount sectorsPerBlk neraseblocks pCount block count (tableIndex neraseblocks block') &&&
        tableBit block' =
      if block' = block then (if count = 16 then tableBit block else 0)
      else pCount (tableIndex neraseblocks block') &&& tableBit block' := by
  have apart := (nibble_ne_tableIndex even within sixteen block').symm
  simp only [smartSetCount, sixteen, if_neg (show ¬16 > 16 by decide), if_true]
  by_cases same : block' = block
  · subst same
    rw [if_pos rfl, Function.update_self, Function.update_of_ne apart]
    split_ifs
    · exact or_and_self_mask _ _
    · exact and_not_and_self _ _
  rw [if_neg same]
  by_cases shared : tableIndex neraseblocks block' = tableIndex neraseblocks block
  · -- a bit of the same byte, which the set leaves alone
    have disjoint : tableBit block &&& tableBit block' = 0 := by
      apply tableBit_disjoint
      simp only [tableIndex, Nat.shiftRight_eq_div_pow] at shared
      omega
    rw [shared, Function.update_self, Function.update_of_ne (shared ▸ apart)]
    split_ifs
    · exact or_and_of_disjoint disjoint
    · exact and_not_and_of_disjoint disjoint
  · rw [Function.update_of_ne shared, Function.update_of_ne apart]

include packed even in
theorem smartGetCount_setCount_self {block : Nat} (within : block < neraseblocks) {count : UInt8}
    (fits : count.toNat ≤ sectorsPerBlk) (pCount : Nat → UInt8) :
    smartGetCount sectorsPerBlk neraseblocks
      (smartSetCount sectorsPerBlk neraseblocks pCount block count) block = count := by
  have notWide : ¬ sectorsPerBlk > 16 := by omega
  simp only [smartGetCount, if_neg notWide, readNibble_setCount packed even within, if_true]
  by_cases sixteen : sectorsPerBlk = 16
  · rw [tableBit_setCount even sixteen within, if_pos rfl]
    by_cases full : count = 16
    · rw [if_pos full, if_pos ⟨sixteen, tableBit_ne_zero block⟩, full]
      decide
    · have : count.toNat < 16 := by
        have := UInt8.toNat_inj.not.mpr full
        simp only [UInt8.reduceToNat] at this
        omega
      rw [if_neg full, if_neg (fun h => h.2 rfl), and_0x0F_of_lt this]
  · rw [if_neg (fun h => sixteen h.1), and_0x0F_of_lt (by omega)]

theorem smartGetCount_setCount_self_sixteen :
    smartGetCount 16 4 (smartSetCount 16 4 (fun _ => 0) 3 16) 3 = 16 :=
  smartGetCount_setCount_self (by decide) (fun _ => rfl) (by decide) (by decide) _

end Laws

/-- Five erase blocks of sixteen 1024-byte sectors: `smart_setsectorsize` accepts them. -/
def fiveBlocks : MtdConfig.Dev := ⟨512, 16384, 5, fun _ => 0xff, false, false, blocksize512_pos⟩

theorem smart_counts_not_an_array :
    ((smartSetsectorsize (SmartStruct.blank fiveBlocks) 1024).map fun dev =>
        (dev.sectorsPerBlk, dev.neraseblocks)) = .ok (16, 5) ∧
      smartGetCount 16 5 (smartSetCount 16 5 (fun _ => 0) 4 16) 4 = 17 ∧
      freecountOffset 8 5 = 2 ∧ smartSetCount 8 5 (fun _ => 0) 4 1 2 = 0x10 ∧
      smartGetCount 8 5 (fun i => smartSetCount 8 5 (fun _ => 0) 4 1 (i + 2)) 0 = 1 := by
  refine ⟨rfl, ?_, rfl, ?_, ?_⟩ <;> decide

end TinyAra.Fs.Smart
