/-
# Fs.MtdPartition -- partitions of an MTD device

`mtd_partition.c` makes a sub-region of an MTD device an MTD device of its own.
`mtd_partition` rounds the requested R/W blocks in to whole erase blocks and checks the region
against the device. Each entry point of the partition checks a request with `part_blockcheck`
(R/W blocks, or erase blocks for `part_erase`) or `part_bytecheck` (bytes), then passes it to the
parent shifted by the partition's start: it answers at once or calls the parent once
(`Outcome`).

The C types are kept: `off_t` is `int32_t` and `size_t` is `uint32_t`. An `off_t` added to a
`size_t` or to the `unsigned int` `blkpererase` is computed unsigned, so a quantity passed on as
an `off_t` is wrapped back (`CInt.wrap`).

* `partBlockio_eq`: a request that starts at 0 or after is passed on exactly when
  its blocks lie in the partition;
* `partByteio_eq`: `part_bytecheck` admits one byte more, the byte just past the partition;
* `partBlockio_minus_one`: a request for block -1 is passed on, before the partition;
* `mtdPartition_eq`: `mtd_partition` compares the end of the region, in erase blocks, with the
  size of the device in R/W blocks, so it accepts regions up to `blkpererase` times too long;
* `partition_forwards_outside`: so a partition can pass requests on past the device, and every
  one passes on the byte past its end and the block before its start.
-/
import TinyAra.Lib.CInt

namespace TinyAra.Fs.MtdPartition

open CInt

set_option autoImplicit false

def enxio : Int := 6
def enosys : Int := 38

/-- `struct mtd_geometry_s`: the two sizes are bit-fields of 14 and 18 bits. -/
structure Geometry where
  blocksize : Nat
  erasesize : Nat
  neraseblocks : Nat
  blocksize_lt : blocksize < 2 ^ 14
  erasesize_lt : erasesize < 2 ^ 18
  neraseblocks_lt : neraseblocks < 2 ^ 32

/-- The parent device as the partition uses it: what `MTDIOC_GEOMETRY` answers, and whether it
has the byte methods `read` and `write`. -/
structure MtdDev where
  geometry : Except Int Geometry
  hasRead : Bool
  hasWrite : Bool

/-- `struct mtd_partition_s`. Its `child` methods are fixed by the parent's, so they are not
kept. -/
structure MtdPartitionS where
  parent : MtdDev
  firstblock : Int
  neraseblocks : Int
  blocksize : Int
  blkpererase : Nat

/-- What an entry point of the partition does: answer at once, or call the parent's method of the
same name once, on this start and count, and answer what it answers. -/
inductive Outcome
  | ret (value : Int)
  | call (start : Int) (count : Nat)
deriving DecidableEq

def partBlockcheck (priv : MtdPartitionS) (block : Int) : Bool :=
  let partsize := priv.neraseblocks * priv.blkpererase
  decide (block < partsize)

/-- `part_bytecheck(priv, byoff)`: the erase blocks up to the one that holds `byoff`, rounded up,
fit in the partition. -/
def partBytecheck (priv : MtdPartitionS) (byoff : Int) : Bool :=
  let erasesize := priv.blocksize * priv.blkpererase
  let readend := (byoff + erasesize - 1).tdiv erasesize
  decide (readend ≤ priv.neraseblocks)

/-- What `part_bread` and `part_bwrite` both do: `startblock + nblocks - 1` is computed unsigned
and checked as an `off_t`. -/
def partBlockio (priv : MtdPartitionS) (startblock : Int) (nblocks : Nat) : Outcome :=
  if !partBlockcheck priv (wrap 32 (startblock + nblocks - 1)) then .ret (-enxio)
  else .call (startblock + priv.firstblock) nblocks

def partBread (priv : MtdPartitionS) (startblock : Int) (nblocks : Nat) : Outcome :=
  partBlockio priv startblock nblocks

def partBwrite (priv : MtdPartitionS) (startblock : Int) (nblocks : Nat) : Outcome :=
  partBlockio priv startblock nblocks

/-- `part_erase(dev, startblock, nblocks)`, in erase blocks: the check is on the first R/W block
of the last erase block. -/
def partErase (priv : MtdPartitionS) (startblock : Int) (nblocks : Nat) : Outcome :=
  if !partBlockcheck priv (wrap 32 ((startblock + nblocks - 1) * priv.blkpererase)) then
    .ret (-enxio)
  else
    let eoffset := priv.firstblock.tdiv priv.blkpererase
    .call (startblock + eoffset) nblocks

/-- What `part_read` and `part_write` both do, for a parent that has the method or not. -/
def partByteio (priv : MtdPartitionS) (present : Bool) (offset : Int) (nbytes : Nat) : Outcome :=
  if present then
    if !partBytecheck priv (wrap 32 (offset + nbytes - 1)) then .ret (-enxio)
    else
      let newoffset := offset + priv.firstblock * priv.blocksize
      .call newoffset nbytes
  else .ret (-enosys)

def partRead (priv : MtdPartitionS) (offset : Int) (nbytes : Nat) : Outcome :=
  partByteio priv priv.parent.hasRead offset nbytes

/-- `part_write(dev, offset, nbytes, buffer)`, with `CONFIG_MTD_BYTE_WRITE`. -/
def partWrite (priv : MtdPartitionS) (offset : Int) (nbytes : Nat) : Outcome :=
  partByteio priv priv.parent.hasWrite offset nbytes

/-- `mtd_partition(mtd, firstblock, nblocks, tagno)`, `none` for `NULL`. An `off_t` plus the
`unsigned int` `blkpererase` is unsigned, and so are the quotients stored back in `off_t`s. -/
def mtdPartition (mtd : MtdDev) (firstblock nblocks : Int) : Option MtdPartitionS :=
  match mtd.geometry with
  | .error _ => none
  | .ok geo =>
    let blkpererase := geo.erasesize / geo.blocksize
    let erasestart := wrap 32 ((firstblock + blkpererase - 1) % 2 ^ 32 / blkpererase)
    let eraseend := wrap 32 ((firstblock + nblocks) % 2 ^ 32 / blkpererase)
    if erasestart ≥ eraseend then none
    else
      -- the size of the device in R/W blocks, against the end of the region in erase blocks
      let devblocks := wrap 32 (blkpererase * geo.neraseblocks)
      if eraseend > devblocks then none
      else
        some { parent := mtd, firstblock := wrap 32 (erasestart * blkpererase),
               neraseblocks := eraseend - erasestart, blocksize := geo.blocksize,
               blkpererase := blkpererase % 2 ^ 16 }

/-! ## What the checks admit -/

theorem wrap_of_nonneg {x : Int} (nonneg : 0 ≤ x) (lt : x < 2 ^ 31) : wrap 32 x = x :=
  wrap_of_lt (by omega) (by omega)

section Checks

variable {priv : MtdPartitionS}

theorem partBlockio_eq {startblock : Int} {nblocks : Nat} (start : 0 ≤ startblock)
    (nonempty : 0 < nblocks) (range : startblock + nblocks ≤ 2 ^ 31) :
    partBlockio priv startblock nblocks =
      if startblock + nblocks ≤ priv.neraseblocks * priv.blkpererase then
        .call (startblock + priv.firstblock) nblocks
      else .ret (-enxio) := by
  have last : wrap 32 (startblock + nblocks - 1) = startblock + nblocks - 1 :=
    wrap_of_nonneg (by omega) (by omega)
  unfold partBlockio partBlockcheck
  rw [last]
  by_cases inside : startblock + nblocks ≤ priv.neraseblocks * priv.blkpererase
  · rw [if_pos inside, if_neg (by simp only [Bool.not_eq_true', decide_eq_false_iff_not]; omega)]
  · rw [if_neg inside, if_pos (by simp only [Bool.not_eq_true', decide_eq_false_iff_not]; omega)]

theorem partBlockio_minus_one (nonneg : 0 ≤ priv.neraseblocks * priv.blkpererase) :
    partBlockio priv (-1) 1 = .call (priv.firstblock - 1) 1 := by
  have last : wrap 32 (-1 + (1 : Nat) - 1) = -1 := by decide
  unfold partBlockio partBlockcheck
  rw [last, if_neg (by simp only [Bool.not_eq_true', decide_eq_false_iff_not]; omega)]
  congr 1
  omega

/-- The erase blocks up to the one holding byte `byoff`, rounded up, fit in the partition exactly
when `byoff` is at most the partition's size in bytes: so the byte just past the end passes. -/
theorem partBytecheck_iff {byoff : Int} (nonneg : 0 ≤ byoff)
    (erase : 0 < priv.blocksize * priv.blkpererase) :
    partBytecheck priv byoff = true ↔
      byoff ≤ priv.neraseblocks * (priv.blocksize * priv.blkpererase) := by
  unfold partBytecheck
  dsimp only
  rw [Int.tdiv_eq_ediv_of_nonneg (by omega), decide_eq_true_iff]
  exact (isCeil_ediv erase).le_iff erase priv.neraseblocks

theorem partByteio_eq {offset : Int} {nbytes : Nat} (start : 0 ≤ offset) (nonempty : 0 < nbytes)
    (range : offset + nbytes ≤ 2 ^ 31) (erase : 0 < priv.blocksize * priv.blkpererase) :
    partByteio priv true offset nbytes =
      if offset + nbytes ≤ priv.neraseblocks * (priv.blocksize * priv.blkpererase) + 1 then
        .call (offset + priv.firstblock * priv.blocksize) nbytes
      else .ret (-enxio) := by
  have last : wrap 32 (offset + nbytes - 1) = offset + nbytes - 1 :=
    wrap_of_nonneg (by omega) (by omega)
  have check := @partBytecheck_iff priv (offset + nbytes - 1) (by omega) erase
  unfold partByteio
  rw [if_pos rfl, last]
  by_cases inside : offset + nbytes ≤ priv.neraseblocks * (priv.blocksize * priv.blkpererase) + 1
  · rw [if_pos inside, check.mpr (by omega)]
    rfl
  · have refused : partBytecheck priv (offset + nbytes - 1) = false := by
      rw [← Bool.not_eq_true, check]
      omega
    rw [if_neg inside, refused]
    rfl

end Checks

/-! ## What `mtd_partition` accepts -/

theorem mtdPartition_eq {mtd : MtdDev} {geo : Geometry} (geometry : mtd.geometry = .ok geo)
    (blocks : 0 < geo.erasesize / geo.blocksize) {firstblock nblocks : Int} (start : 0 ≤ firstblock)
    (size : 0 ≤ nblocks)
    (range : firstblock + nblocks + ((geo.erasesize / geo.blocksize : Nat) : Int) ≤ 2 ^ 31)
    (device : (geo.erasesize / geo.blocksize : Nat) * geo.neraseblocks < 2 ^ 31) :
    let blkpererase := geo.erasesize / geo.blocksize
    let erasestart := (firstblock + blkpererase - 1) / blkpererase
    let eraseend := (firstblock + nblocks) / blkpererase
    mtdPartition mtd firstblock nblocks =
      if erasestart < eraseend ∧ eraseend ≤ blkpererase * geo.neraseblocks then
        some { parent := mtd, firstblock := erasestart * blkpererase,
               neraseblocks := eraseend - erasestart, blocksize := geo.blocksize,
               blkpererase := blkpererase % 2 ^ 16 }
      else none := by
  intro blkpererase erasestart eraseend
  have positive : (0 : Int) < blkpererase := by exact_mod_cast blocks
  -- no quantity wraps
  have startMod : (firstblock + blkpererase - 1) % 2 ^ 32 = firstblock + blkpererase - 1 :=
    Int.emod_eq_of_lt (by omega) (by omega)
  have endMod : (firstblock + nblocks) % 2 ^ 32 = firstblock + nblocks :=
    Int.emod_eq_of_lt (by omega) (by omega)
  have startLe : erasestart ≤ firstblock + blkpererase - 1 :=
    Int.ediv_le_self _ (by omega)
  have endLe : eraseend ≤ firstblock + nblocks := Int.ediv_le_self _ (by omega)
  have startNonneg : 0 ≤ erasestart := Int.ediv_nonneg (by omega) positive.le
  have endNonneg : 0 ≤ eraseend := Int.ediv_nonneg (by omega) positive.le
  have firstLe : erasestart * blkpererase ≤ firstblock + blkpererase - 1 :=
    Int.ediv_mul_le _ (Int.ne_of_gt positive)
  have wrapStart : wrap 32 erasestart = erasestart := wrap_of_nonneg startNonneg (by omega)
  have wrapEnd : wrap 32 eraseend = eraseend := wrap_of_nonneg endNonneg (by omega)
  have wrapDev : wrap 32 ((blkpererase : Int) * geo.neraseblocks) = blkpererase * geo.neraseblocks :=
    wrap_of_nonneg (Int.mul_nonneg positive.le (Int.natCast_nonneg _)) (by exact_mod_cast device)
  have wrapFirst : wrap 32 (erasestart * blkpererase) = erasestart * blkpererase :=
    wrap_of_nonneg (Int.mul_nonneg startNonneg positive.le) (by omega)
  unfold mtdPartition
  rw [geometry]
  dsimp only
  rw [startMod, endMod, wrapStart, wrapEnd, wrapDev, wrapFirst]
  by_cases accepted : erasestart < eraseend ∧ eraseend ≤ blkpererase * geo.neraseblocks
  · rw [if_pos accepted, if_neg (by omega), if_neg (by omega)]
  · rw [if_neg accepted]
    by_cases empty : erasestart ≥ eraseend
    · rw [if_pos empty]
    · rw [if_neg empty, if_pos (by omega)]

/-- A device of `N` erase blocks of `k ≥ 2` R/W blocks each, asked for the `k * k * N` R/W blocks
from block 0, gets a partition of `k * N` erase blocks, more than it has. That partition passes on
a read of its last R/W block, past the device's `k * N`; a read of the byte just past its end; and
a read of block -1, before its start. -/
theorem partition_forwards_outside {mtd : MtdDev} {geo : Geometry}
    (geometry : mtd.geometry = .ok geo) (reads : mtd.hasRead = true) {k : Nat}
    (ratio : geo.erasesize = k * geo.blocksize) (positive : 0 < geo.blocksize) (two : 2 ≤ k)
    (nonempty : 0 < geo.neraseblocks) (fits : k * k * geo.neraseblocks * geo.blocksize < 2 ^ 30) :
    ∃ priv, mtdPartition mtd 0 ((k * k * geo.neraseblocks : Nat) : Int) = some priv ∧
      (geo.neraseblocks : Int) < priv.neraseblocks ∧
      partBread priv ((k * k * geo.neraseblocks : Nat) - 1) 1 =
        .call ((k * k * geo.neraseblocks : Nat) - 1) 1 ∧
      ((k * geo.neraseblocks : Nat) : Int) ≤ ((k * k * geo.neraseblocks : Nat) : Int) - 1 ∧
      partRead priv ((k * k * geo.neraseblocks * geo.blocksize : Nat) : Int) 1 =
        .call ((k * k * geo.neraseblocks * geo.blocksize : Nat) : Int) 1 ∧
      partBread priv (-1) 1 = .call (-1) 1 := by
  have per : geo.erasesize / geo.blocksize = k := by
    rw [ratio, Nat.mul_div_cancel _ positive]
  -- the sizes involved, none of which wraps
  have kle : k ≤ k * geo.neraseblocks := Nat.le_mul_of_pos_right _ nonempty
  have more : 2 * geo.neraseblocks ≤ k * geo.neraseblocks := Nat.mul_le_mul_right _ two
  have longer : 2 * (k * geo.neraseblocks) ≤ k * k * geo.neraseblocks := by
    rw [Nat.mul_assoc]
    exact Nat.mul_le_mul_right _ two
  have bytes : k * k * geo.neraseblocks ≤ k * k * geo.neraseblocks * geo.blocksize :=
    Nat.le_mul_of_pos_right _ positive
  have small : k < 2 ^ 16 := by
    by_contra big
    have : 2 ^ 16 * 2 ^ 16 ≤ k * k := Nat.mul_le_mul (by omega) (by omega)
    have : k * k ≤ k * k * geo.neraseblocks := Nat.le_mul_of_pos_right _ nonempty
    omega
  have blocks : ((k * geo.neraseblocks : Nat) : Int) * k = ((k * k * geo.neraseblocks : Nat) : Int) := by
    push_cast
    ring
  have partBytes : ((k * geo.neraseblocks : Nat) : Int) * (geo.blocksize * k) =
      ((k * k * geo.neraseblocks * geo.blocksize : Nat) : Int) := by
    push_cast
    ring
  -- `mtd_partition` takes erase blocks `0` to `k * N`
  have shape := mtdPartition_eq geometry (by omega) (le_refl 0)
    (Int.natCast_nonneg (k * k * geo.neraseblocks)) (by rw [per]; omega) (by rw [per]; omega)
  dsimp only at shape
  rw [per] at shape
  have first : ((0 : Int) + k - 1) / k = 0 := Int.ediv_eq_zero_of_lt (by omega) (by omega)
  have last : ((0 : Int) + ((k * k * geo.neraseblocks : Nat) : Int)) / k =
      ((k * geo.neraseblocks : Nat) : Int) := by
    rw [Int.zero_add, Nat.mul_assoc, Nat.cast_mul, Int.mul_ediv_cancel_left _ (by omega)]
  rw [first, last, Int.zero_mul, Int.sub_zero, Nat.mod_eq_of_lt small,
    if_pos ⟨by omega, (Nat.cast_mul k geo.neraseblocks).le⟩] at shape
  have erase : (0 : Int) < geo.blocksize * k := Int.mul_pos (by exact_mod_cast positive) (by omega)
  refine ⟨_, shape, ?_, ?_, by omega, ?_, ?_⟩
  · show (geo.neraseblocks : Int) < ((k * geo.neraseblocks : Nat) : Int)
    omega
  · -- its last R/W block
    rw [partBread, partBlockio_eq (by omega) (by omega) (by omega)]
    dsimp only
    rw [if_pos (by omega), Int.add_zero]
  · -- the byte just past its end
    rw [partRead]
    dsimp only
    rw [reads, partByteio_eq (by omega) (by omega) (by omega) erase]
    dsimp only
    rw [if_pos (by omega), Int.zero_mul, Int.add_zero]
  · -- block -1
    rw [partBread, partBlockio_minus_one (by dsimp only; omega)]
    rfl

/-- A flash of 4 erase blocks of 1024 bytes, read and written in blocks of 512. -/
def smallGeo : Geometry := ⟨512, 1024, 4, by decide, by decide, by decide⟩

def smallFlash : MtdDev := ⟨.ok smallGeo, true, true⟩

/-- Asked for 16 R/W blocks from block 0, the 8-block flash gives a partition of 8 erase blocks,
which passes on reads of block 15, of byte 8192 and of block -1. -/
theorem partition_forwards_outside_small :
    ∃ priv, mtdPartition smallFlash 0 16 = some priv ∧ (4 : Int) < priv.neraseblocks ∧
      partBread priv 15 1 = .call 15 1 ∧ (8 : Int) ≤ 15 ∧
      partRead priv 8192 1 = .call 8192 1 ∧ partBread priv (-1) 1 = .call (-1) 1 :=
  partition_forwards_outside (k := 2) (show smallFlash.geometry = .ok smallGeo from rfl) rfl rfl
    (by decide) (le_refl 2) (by decide) (by decide)

end TinyAra.Fs.MtdPartition
