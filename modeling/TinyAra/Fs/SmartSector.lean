/-
# Fs.SmartSector -- releasing a logical sector of the SMART layer

`smart_freesector(dev, logicalsector)` releases a logical sector. It reads the header of the
physical sector the map gives and checks that the header names the logical sector. Then it
clears the header's released bit through `smart_bytewrite`, counts the sector released, unmaps
it, and erases the erase block if every sector of it is released.

The check that the sector is mapped sits inside the range test `logicalsector > 2 &&
logicalsector < dev->totalsectors`, so the reserved sectors 0 to 2 skip it. Sector 0 is the
format sector, mapped by `smart_llformat` to physical sector 0 with a header naming it. On a
freshly formatted device, `smart_freesector(0)` therefore releases the format sector.

* `smartBytewrite_eq`: both ways of `smart_bytewrite` store the bytes when they lie inside the
  partition; the block read-modify-write is `Memory.write_read_around`.
* `smartFreesector_eq`: what a release does when the header names the sector.
* `freesector_releases_format_sector`: `smart_freesector(0)` on the device `smart_initialize`
  sets up and `smart_llformat` formats returns `OK` and unmaps the format sector.
-/
import TinyAra.Fs.Smart

namespace TinyAra.Fs.SmartSector

open MtdConfig (Dev ok enxio)
open Smart

set_option autoImplicit false

/-- `SMART_STATUS_RELEASED`: the status bit cleared when the sector is released. -/
def smartStatusReleased : UInt8 := 0x40

/-- C's conversion of a count to `uint16_t` and to `uint8_t`. -/
def toUint16 (x : Int) : Nat := (x % 65536).toNat
def toUint8 (x : Int) : Nat := (x % 256).toNat

/-- `smart_bytewrite(dev, offset, nbytes, buffer)`, with `nbytes` the length of `buffer`. It
uses the MTD's byte `write` where there is one (`CONFIG_MTD_BYTE_WRITE`). Otherwise it reads
the blocks the bytes fall in into `dev->bytebuffer`, copies the bytes over them and writes the
blocks back. -/
def smartBytewrite (dev : SmartStruct) (offset : Nat) (buffer : List UInt8) : Int × SmartStruct :=
  if dev.mtd.byteWrite then
    match dev.mtd.write offset buffer with
    | some mtd => (buffer.length, { dev with mtd })
    | none => (-enxio, dev)
  else
    let startblock := offset / dev.mtd.blocksize
    let nblocks := (offset - startblock * dev.mtd.blocksize + buffer.length + dev.mtd.blocksize - 1) /
      dev.mtd.blocksize
    match dev.mtd.bread startblock nblocks with
    | none => (-eio, dev)
    | some bytebuffer =>
      let index := offset - startblock * dev.mtd.blocksize
      let bytebuffer := bytebuffer.take index ++ buffer ++ bytebuffer.drop (index + buffer.length)
      match dev.mtd.bwrite startblock nblocks bytebuffer with
      | none => (-eio, dev)
      | some mtd => (buffer.length, { dev with mtd })

/-- `smart_erase_block_if_empty(dev, block, forceerase)`: an erase block whose sectors are all
released is erased and its counts start over. On a device of 65534 sectors the last erase
block's two withheld sectors are counted released again. The result of `MTD_ERASE` is not
checked. The wear levels (`CONFIG_MTD_SMART_WEAR_LEVEL`) and the procfs counters are left
out. -/
def smartEraseBlockIfEmpty (dev : SmartStruct) (block : Nat) (forceerase : Bool) : SmartStruct :=
  let releasecount := dev.releasecount block
  let freecount := dev.freecount block
  if (freecount + releasecount = dev.availSectPerBlk ∧ freecount < 1) ∨ forceerase = true then
    let mtd := (dev.mtd.erase block 1).getD dev.mtd
    let prerelease : Nat := if block = dev.mtd.neraseblocks - 1 ∧ dev.totalsectors = 65534 then 2 else 0
    { dev with
      mtd
      freesectors := toUint16 (dev.freesectors + (dev.availSectPerBlk - prerelease - freecount : Int))
      releasesectors := toUint16 (dev.releasesectors - (releasecount - prerelease : Int))
      releasecount := Function.update dev.releasecount block prerelease
      freecount := Function.update dev.freecount block (toUint8 (dev.availSectPerBlk - prerelease : Int)) }
  else dev

/-- `smart_freesector(dev, logicalsector)`, with the map in RAM (`CONFIG_MTD_SMART_MINIMIZE_RAM`
off) and erased flash reading 0xff. Only a sector in `(2, totalsectors)` is checked to be
mapped; for any other the map is read as it is, past its end too. -/
def smartFreesector (dev : SmartStruct) (logicalsector : Nat) : Int × SmartStruct :=
  if 2 < logicalsector ∧ logicalsector < dev.totalsectors ∧ dev.sMap logicalsector = 0xffff then
    (-einval, dev)
  else
    let physsector := dev.sMap logicalsector
    let readaddr := physsector * dev.mtdBlksPerSector * dev.mtd.blocksize
    match dev.mtd.read readaddr smartSectHeaderSize with
    | none => (-enxio, dev)
    | some bytes =>
      let header := SectHeader.decode bytes
      -- the sanity check compares with `(uint16_t)logicalsector`
      if header.logicalsector ≠ logicalsector % 65536 then (-einval, dev)
      else
        let (ret, dev) := smartBytewrite dev (readaddr + 4) [header.status &&& ~~~smartStatusReleased]
        if ret ≠ 1 then (ret, dev)
        else
          let block := physsector / dev.sectorsPerBlk
          let dev := { dev with
            releasesectors := (dev.releasesectors + 1) % 65536
            releasecount := Function.update dev.releasecount block ((dev.releasecount block + 1) % 256)
            sMap := Function.update dev.sMap logicalsector 0xffff }
          (ok, smartEraseBlockIfEmpty dev block false)

/-! ## Writing bytes -/

section Bytewrite

variable (dev : SmartStruct) {offset : Nat} {buffer : List UInt8}
  (inside : offset + buffer.length ≤ dev.mtd.nblocks * dev.mtd.blocksize)

theorem sub_div_mul (offset blocksize : Nat) : offset - offset / blocksize * blocksize = offset % blocksize := by
  have split := Nat.div_add_mod offset blocksize
  rw [Nat.mul_comm] at split
  omega

include inside in
theorem bytewrite_blocks :
    offset / dev.mtd.blocksize + (offset % dev.mtd.blocksize + buffer.length + dev.mtd.blocksize - 1) /
        dev.mtd.blocksize ≤ dev.mtd.nblocks ∧
      offset % dev.mtd.blocksize + buffer.length ≤
        (offset % dev.mtd.blocksize + buffer.length + dev.mtd.blocksize - 1) / dev.mtd.blocksize *
          dev.mtd.blocksize := by
  have positive := dev.mtd.blocksize_pos
  have split := Nat.div_add_mod offset dev.mtd.blocksize
  constructor
  · -- the blocks reach no further than the partition's end
    have reach : dev.mtd.blocksize * (offset / dev.mtd.blocksize) + offset % dev.mtd.blocksize +
        buffer.length ≤ dev.mtd.blocksize * dev.mtd.nblocks := by
      rw [Nat.mul_comm _ dev.mtd.nblocks]
      omega
    have fit : (offset % dev.mtd.blocksize + buffer.length + dev.mtd.blocksize - 1) / dev.mtd.blocksize ≤
        dev.mtd.nblocks - offset / dev.mtd.blocksize := by
      apply (Nat.div_le_iff_le_mul_add_pred positive).mpr
      rw [Nat.mul_sub]
      omega
    have start : offset / dev.mtd.blocksize ≤ dev.mtd.nblocks := by
      apply (Nat.div_le_iff_le_mul_add_pred positive).mpr
      omega
    omega
  · have := Nat.lt_div_mul_add (a := offset % dev.mtd.blocksize + buffer.length + dev.mtd.blocksize - 1)
      positive
    omega

include inside in
theorem smartBytewrite_eq :
    smartBytewrite dev offset buffer =
      ((buffer.length : Int), { dev with mtd := dev.mtd.store offset buffer }) := by
  obtain ⟨within, cover⟩ := bytewrite_blocks dev inside
  unfold smartBytewrite
  split
  · -- `MTD_WRITE`
    simp [Dev.write, inside]
  · -- the read-modify-write of the blocks the bytes fall in
    dsimp only
    simp only [sub_div_mul, Dev.bread, if_pos within, Dev.bwrite, Memory.take_read, Memory.drop_read,
      Nat.min_eq_left (Nat.le_of_add_right_le cover)]
    rw [← Nat.add_assoc, Dev.store, Memory.write_read_around _ _ _ rfl, Nat.div_add_mod']
    rfl

end Bytewrite

/-! ## Releasing a sector -/

@[simp] theorem sMap_smartEraseBlockIfEmpty (dev : SmartStruct) (block : Nat) (forceerase : Bool) :
    (smartEraseBlockIfEmpty dev block forceerase).sMap = dev.sMap := by
  simp only [smartEraseBlockIfEmpty]
  split_ifs <;> rfl

/-- A call for a sector the range test lets through, whose header names it: the answer of the
byte write decides the rest. -/
theorem smartFreesector_of_names {dev dev₁ : SmartStruct} {l : Nat} {bytes : List UInt8} {ret : Int}
    (inRange : ¬ (2 < l ∧ l < dev.totalsectors ∧ dev.sMap l = 0xffff))
    (read : dev.mtd.read (dev.sMap l * dev.mtdBlksPerSector * dev.mtd.blocksize) smartSectHeaderSize =
      some bytes)
    (names : (SectHeader.decode bytes).logicalsector = l % 65536)
    (write : smartBytewrite dev (dev.sMap l * dev.mtdBlksPerSector * dev.mtd.blocksize + 4)
      [(SectHeader.decode bytes).status &&& ~~~smartStatusReleased] = (ret, dev₁)) :
    smartFreesector dev l = if ret ≠ 1 then (ret, dev₁) else (ok, smartEraseBlockIfEmpty { dev₁ with
      releasesectors := (dev₁.releasesectors + 1) % 65536
      releasecount := Function.update dev₁.releasecount (dev.sMap l / dev₁.sectorsPerBlk)
        ((dev₁.releasecount (dev.sMap l / dev₁.sectorsPerBlk) + 1) % 256)
      sMap := Function.update dev₁.sMap l 0xffff } (dev.sMap l / dev₁.sectorsPerBlk) false) := by
  simp only [smartFreesector, if_neg inRange, read, names, ne_eq, not_true_eq_false, if_false, write]

theorem smartFreesector_eq {dev : SmartStruct} {l : Nat} {bytes : List UInt8}
    (inRange : ¬ (2 < l ∧ l < dev.totalsectors ∧ dev.sMap l = 0xffff))
    (read : dev.mtd.read (dev.sMap l * dev.mtdBlksPerSector * dev.mtd.blocksize) smartSectHeaderSize =
      some bytes)
    (names : (SectHeader.decode bytes).logicalsector = l % 65536)
    (inside : dev.sMap l * dev.mtdBlksPerSector * dev.mtd.blocksize + 4 + 1 ≤
      dev.mtd.nblocks * dev.mtd.blocksize) :
    smartFreesector dev l = (ok, smartEraseBlockIfEmpty { dev with
      mtd := dev.mtd.store (dev.sMap l * dev.mtdBlksPerSector * dev.mtd.blocksize + 4)
        [(SectHeader.decode bytes).status &&& ~~~smartStatusReleased]
      releasesectors := (dev.releasesectors + 1) % 65536
      releasecount := Function.update dev.releasecount (dev.sMap l / dev.sectorsPerBlk)
        ((dev.releasecount (dev.sMap l / dev.sectorsPerBlk) + 1) % 256)
      sMap := Function.update dev.sMap l 0xffff } (dev.sMap l / dev.sectorsPerBlk) false) := by
  have write := @smartBytewrite_eq dev _ [(SectHeader.decode bytes).status &&& ~~~smartStatusReleased] inside
  rw [smartFreesector_of_names inRange read names write]
  simp only [List.length_singleton, Int.natCast_one, ne_eq, not_true_eq_false, if_false]

/-! ## The format sector -/

/-- The header at the start of the formatted partition: the format sector's, naming logical
sector 0. -/
theorem formatted_read_header {dev : SmartStruct} (arg : Nat)
    (room : smartSectHeaderSize ≤ dev.mtdBlksPerSector * dev.mtd.blocksize)
    (inside : dev.mtdBlksPerSector ≤ dev.mtd.nblocks) :
    (formatted dev arg).read 0 smartSectHeaderSize = some [0, 0, 0, 0, formatStatus] := by
  have blocks : dev.mtdBlksPerSector * dev.mtd.blocksize ≤ dev.mtd.nblocks * dev.mtd.blocksize :=
    Nat.mul_le_mul_right _ inside
  have long : smartSectHeaderSize ≤ (formatSector dev.sectorsize arg).length := by
    simp [formatSector, smartFmtSig, smartSectHeaderSize]
  have stored : smartSectHeaderSize ≤
      ((formatSector dev.sectorsize arg).take (dev.mtdBlksPerSector * dev.mtd.blocksize)).length := by
    rw [List.length_take]
    exact Nat.le_min.mpr ⟨room, long⟩
  simp only [formatted, Dev.read, Dev.bulkerase, Dev.store_nblocks, Dev.store_image, Dev.store_blocksize,
    Nat.zero_add]
  rw [if_pos (Nat.le_trans room blocks), Memory.read_write_take 0 _ stored, List.take_take,
    Nat.min_eq_left room]
  rfl

/-- On every partition `smart_initialize` sets up, with blocks no larger than a sector, the device
`smart_llformat` formats maps logical sector 0 to the format sector, and `smart_freesector(0)`
returns `OK` and unmaps it. -/
theorem freesector_releases_format_sector (mtd : Dev) (arg : Nat)
    (erase : smartSectorSize ≤ mtd.erasesize) (fits : mtd.erasesize / smartSectorSize ≤ 256)
    (small : mtd.neraseblocks * (mtd.erasesize / smartSectorSize) ≤ 65536) (nonempty : 0 < mtd.neraseblocks)
    (header : smartSectHeaderSize ≤ mtd.blocksize) (blocks : mtd.blocksize ≤ smartSectorSize) :
    ∃ dev dev', smartInitialize mtd = .ok dev ∧ smartLlformat dev arg = .ok dev' ∧
      dev'.sMap 0 = 0 ∧ (smartFreesector dev' 0).1 = ok ∧ (smartFreesector dev' 0).2.sMap 0 = 0xffff := by
  obtain ⟨dev, init, onMtd, g⟩ := smartInitialize_geometry erase fits small
  subst onMtd
  have nonzero : dev.erasesize ≠ 0 := by
    rw [g.erasesize]
    unfold smartSectorSize at erase
    omega
  have inside : dev.mtdBlksPerSector ≤ dev.mtd.nblocks := g.room erase nonempty
  -- a sector is at least one block, and so holds a header
  have room : smartSectHeaderSize ≤ dev.mtdBlksPerSector * dev.mtd.blocksize := by
    have perSector : 1 ≤ dev.mtdBlksPerSector := by
      rw [g.mtdBlksPerSector]
      exact Nat.div_pos blocks dev.mtd.blocksize_pos
    calc smartSectHeaderSize ≤ dev.mtd.blocksize := header
      _ = 1 * dev.mtd.blocksize := (Nat.one_mul _).symm
      _ ≤ dev.mtdBlksPerSector * dev.mtd.blocksize := Nat.mul_le_mul_right _ perSector
  have status : smartSectHeaderSize ≤ dev.mtd.nblocks * dev.mtd.blocksize :=
    Nat.le_trans room (Nat.mul_le_mul_right _ inside)
  refine ⟨dev, _, init, smartLlformat_eq g nonzero inside arg, rfl, ?_⟩
  rw [@smartFreesector_eq _ 0 [0, 0, 0, 0, formatStatus] ?inRange ?read rfl ?inside]
  · exact ⟨rfl, by simp⟩
  case inRange => simp
  case read => simpa using formatted_read_header arg room inside
  case inside => simpa [formatted, Dev.bulkerase, smartSectHeaderSize] using status

theorem freesector_releases_format_sector_64m :
    smartSectorSize ≤ partition64m.erasesize ∧ partition64m.erasesize / smartSectorSize ≤ 256 ∧
    partition64m.neraseblocks * (partition64m.erasesize / smartSectorSize) ≤ 65536 ∧
    0 < partition64m.neraseblocks ∧ smartSectHeaderSize ≤ partition64m.blocksize ∧
    partition64m.blocksize ≤ smartSectorSize ∧
    ∃ dev dev', smartInitialize partition64m = .ok dev ∧ smartLlformat dev 1 = .ok dev' ∧
      dev'.sMap 0 = 0 ∧ (smartFreesector dev' 0).1 = ok ∧ (smartFreesector dev' 0).2.sMap 0 = 0xffff :=
  ⟨by decide, by decide, by decide, by decide, by decide, by decide,
    freesector_releases_format_sector partition64m 1 (by decide) (by decide) (by decide) (by decide)
      (by decide) (by decide)⟩

end TinyAra.Fs.SmartSector
