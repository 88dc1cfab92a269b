/-
# Fs.Smart -- the sector counts of the SMART flash translation layer

`smart.c` maps logical sectors onto the physical sectors of an MTD device. A physical sector
starts with a 5-byte header: the logical sector it holds, a sequence number and a status byte
whose bits, cleared one at a time, mark it committed and then released. For every erase block
the driver counts the sectors still erased (`freecount`) and those released (`releasecount`),
with their totals in `freesectors` and `releasesectors`; allocation and garbage collection are
steered by these counts alone.

Sector numbers are 16-bit and 0xffff means "no sector", so a device of 65536 sectors cannot
number its last two: `smart_setsectorsize` makes it 65534 sectors long, and the driver means
to count the two left over as released from the start ("pre-released").  `smart_llformat`
looks for the last erase block with `x == dev->neraseblocks` inside its loop over
`x < dev->neraseblocks`, so no block is ever pre-released (`smartLlformat_eq` gives every
block a release count of zero), and the formatted device counts both withheld sectors free.

Modelled: `smart_setsectorsize`, the geometry part of `smart_initialize` and `smart_llformat`,
over the MTD partition of `Fs.MtdConfig`.
-/
import TinyAra.Fs.MtdConfig
import Mathlib.Algebra.BigOperators.Group.Finset.Basic
import Mathlib.Data.List.Count

namespace TinyAra.Fs.Smart

open MtdConfig (Dev)

set_option autoImplicit false

def eio : Int := 5
def einval : Int := 22

/-- `CONFIG_MTD_SMART_SECTOR_SIZE` and `CONFIG_SMARTFS_MAXNAMLEN`, at their defaults. -/
def smartSectorSize : Nat := 1024
def smartfsMaxnamlen : Nat := 32

/-- `sizeof(struct smart_sect_header_s)` for format version 1, without CRC. -/
def smartSectHeaderSize : Nat := 5

/-- The status bits of a sector header. A bit is set while erased and cleared to record its
event, with `CONFIG_SMARTFS_ERASEDSTATE` 0xff. -/
def smartStatusCommitted : UInt8 := 0x80
def smartStatusSizebits : UInt8 := 0x1c
def smartStatusVerbits : UInt8 := 0x03
def smartStatusVersion : UInt8 := 0x01

/-- `SMART_FMT_SIG1..4` ("SMRT") and `SMART_FMT_VERSION`. -/
def smartFmtSig : List UInt8 := [83, 77, 82, 84]
def smartFmtVersion : UInt8 := 1

/-- `struct smart_struct_s`, with the fields these functions set and read: the MTD partition
with its geometry (`geo`), the geometry derived from the sector size, the counts, and the
logical-to-physical map `sMap` (`CONFIG_MTD_SMART_MINIMIZE_RAM` off), where 0xffff is
"unmapped". -/
structure SmartStruct where
  mtd : Dev
  sectorsize : Nat
  erasesize : Nat
  neraseblocks : Nat
  mtdBlksPerSector : Nat
  sectorsPerBlk : Nat
  availSectPerBlk : Nat
  totalsectors : Nat
  freesectors : Nat
  releasesectors : Nat
  freecount : Nat → Nat
  releasecount : Nat → Nat
  sMap : Nat → Nat

/-- The device `smart_initialize` allocates for `mtd`, with the sector size cleared. The C
leaves its other fields unset until they are computed; here they are zero. -/
def SmartStruct.blank (mtd : Dev) : SmartStruct :=
  ⟨mtd, 0, 0, 0, 0, 0, 0, 0, 0, 0, fun _ => 0, fun _ => 0, fun _ => 0xffff⟩

/-- `smart_setsectorsize(dev, size)`: the geometry for sectors of `size` bytes. An erase block
of more than 256 sectors is refused later, through `erasesize` 0. The buffers it allocates are
left out, with its `-ENOMEM`. -/
def smartSetsectorsize (dev : SmartStruct) (size : Nat) : Except Int SmartStruct :=
  let size := if size = 0 then smartSectorSize else size
  if size = dev.sectorsize then .ok dev
  else
    -- a 16-bit `geo.erasesize` reads 0 for 64K erase blocks
    let erasesize := if dev.mtd.erasesize = 0 then 262144 else dev.mtd.erasesize
    let dev := { dev with
      neraseblocks := dev.mtd.neraseblocks, erasesize, sectorsize := size,
      mtdBlksPerSector := size / dev.mtd.blocksize }
    let dev :=
      if erasesize / size > 256 then
        { dev with erasesize := 0, sectorsPerBlk := 256, availSectPerBlk := 255 }
      else
        let sectorsPerBlk := erasesize / size
        { dev with sectorsPerBlk, availSectPerBlk := if sectorsPerBlk = 256 then 255 else sectorsPerBlk }
    let totalsectors : Nat := dev.neraseblocks * dev.sectorsPerBlk
    if totalsectors > 65536 then .error (-einval)
    else .ok { dev with totalsectors := if totalsectors = 65536 then totalsectors - 2 else totalsectors }

/-- The geometry part of `smart_initialize(minor, mtd, partname)`: the default sector size, the
sector count checked again, and the free count of an empty device, stored in 16 bits.
Registering the block driver and the `smart_scan` that ends it are left out. -/
def smartInitialize (mtd : Dev) : Except Int SmartStruct := do
  let dev ← smartSetsectorsize (SmartStruct.blank mtd) smartSectorSize
  let totalsectors := dev.neraseblocks * dev.sectorsPerBlk
  if totalsectors > 65536 then throw (-einval)
  let totalsectors := if totalsectors = 65536 then totalsectors - 2 else totalsectors
  pure { dev with totalsectors, freesectors := dev.availSectPerBlk * dev.mtd.neraseblocks % 65536 }

/-- The status byte of the format sector: committed, not released, with the format version and
the sector size (`sectsize`, in 512-byte units, in bits 4-2). -/
def formatStatus : UInt8 :=
  ~~~(smartStatusCommitted ||| smartStatusVerbits ||| smartStatusSizebits) ||| smartStatusVersion |||
    ((smartSectorSize >>> 9) <<< 2).toUInt8

/-- The `dev->rwbuffer` `smart_llformat` writes to physical sector 0: logical sector 0,
sequence 0 and the status, then the signature, the format version, the name size and the
number of root directories `arg`, over an erased sector. -/
def formatSector (sectorsize arg : Nat) : List UInt8 :=
  [0, 0, 0, 0, formatStatus] ++ smartFmtSig ++ [smartFmtVersion, smartfsMaxnamlen.toUInt8, arg.toUInt8] ++
    List.replicate (sectorsize - 12) 0xff

/-- `smart_llformat(dev, arg)`: erase the device, write the format sector and start the counts
over. The loop that sets the counts looks for the last erase block with
`x == dev->neraseblocks`, which no `x < dev->neraseblocks` passes. -/
def smartLlformat (dev : SmartStruct) (arg : Nat) : Except Int SmartStruct := do
  let dev ← smartSetsectorsize dev smartSectorSize
  if dev.erasesize = 0 then throw (-einval)
  let mtd := dev.mtd.bulkerase
  let wrcount := mtd.bwrite 0 dev.mtdBlksPerSector
    ((formatSector dev.sectorsize arg).take (dev.mtdBlksPerSector * mtd.blocksize))
  let some mtd := wrcount | throw (-eio)
  let dev ← smartSetsectorsize { dev with mtd } smartSectorSize
  let prerelease (x : Nat) : Nat := if x = dev.neraseblocks ∧ dev.totalsectors = 65534 then 2 else 0
  let freecount (x : Nat) : Nat :=
    if x < dev.neraseblocks then dev.availSectPerBlk - prerelease x else dev.freecount x
  pure { dev with
    freesectors := dev.availSectPerBlk * dev.mtd.neraseblocks - 1
    releasesectors := 0
    releasecount := fun x => if x < dev.neraseblocks then prerelease x else dev.releasecount x
    -- the format sector is taken from erase block 0
    freecount := Function.update freecount 0 (freecount 0 - 1)
    sMap := fun x => if x = 0 then 0 else if x < dev.totalsectors then 0xffff else dev.sMap x }

/-! ## Erased sectors -/

/-- A sector header: `struct smart_sect_header_s` of format version 1, without CRC. -/
structure SectHeader where
  logicalsector : Nat
  seq : UInt8
  crc8 : UInt8
  status : UInt8

/-- The header in its first five bytes, the logical sector little-endian (`UINT8TOUINT16`). -/
def SectHeader.decode (b : List UInt8) : SectHeader :=
  ⟨(b.getD 0 0).toNat + (b.getD 1 0).toNat * 256, b.getD 2 0, b.getD 3 0, b.getD 4 0⟩

def SectHeader.isCommitted (h : SectHeader) : Bool := h.status &&& smartStatusCommitted == 0

/-- The test `smart_findfreephyssector` makes of a sector it may hand out: no logical sector,
no sequence number, not committed. -/
def SectHeader.isFree (h : SectHeader) : Bool :=
  h.logicalsector == 0xffff && h.seq == 0xff && h.crc8 == 0xff && !h.isCommitted

/-- The header of physical sector `x`, read as `smart_findfreephyssector` reads it. -/
def physHeader (dev : SmartStruct) (x : Nat) : Option SectHeader :=
  (dev.mtd.read (x * dev.mtdBlksPerSector * dev.mtd.blocksize) smartSectHeaderSize).map SectHeader.decode

/-- Physical sector `x` is erased: `smart_findfreephyssector` could hand it out. -/
def isErased (dev : SmartStruct) (x : Nat) : Bool :=
  match physHeader dev x with
  | some h => h.isFree
  | none => false

/-- The physical sectors of erase block `b` the driver uses; of 256 the last is never used. -/
def blockSectors (dev : SmartStruct) (b : Nat) : List Nat :=
  List.range' (b * dev.sectorsPerBlk) dev.availSectPerBlk

/-- The erased sectors of erase block `b` that the driver can number: those below
`totalsectors`. -/
def erasedUsable (dev : SmartStruct) (b : Nat) : Nat :=
  (blockSectors dev b).countP fun x => decide (x < dev.totalsectors) && isErased dev x

/-- A block with a sector the driver cannot number has fewer erased usable sectors than it
has sectors. -/
theorem erasedUsable_lt {dev : SmartStruct} {b x : Nat} (mem : x ∈ blockSectors dev b)
    (withheld : dev.totalsectors ≤ x) : erasedUsable dev b < dev.availSectPerBlk := by
  have length : (blockSectors dev b).length = dev.availSectPerBlk := List.length_range'
  rw [erasedUsable, ← length, List.countP_lt_length_iff]
  exact ⟨x, mem, by simp [Nat.not_lt.mpr withheld]⟩

/-- On 65536 sectors the last erase block reaches past `totalsectors`: the driver cannot number
all of its sectors. -/
theorem erasedUsable_last_lt {dev : SmartStruct} (blocks : dev.neraseblocks * dev.sectorsPerBlk = 65536)
    (total : dev.totalsectors = 65534) (perBlock : 0 < dev.sectorsPerBlk)
    (avail : dev.availSectPerBlk = if dev.sectorsPerBlk = 256 then 255 else dev.sectorsPerBlk) :
    erasedUsable dev (dev.neraseblocks - 1) < dev.availSectPerBlk := by
  -- the block's last used sector is 65534 or 65535
  have lastStart : (dev.neraseblocks - 1) * dev.sectorsPerBlk = 65536 - dev.sectorsPerBlk := by
    rw [Nat.sub_mul, Nat.one_mul, blocks]
  have last : (dev.neraseblocks - 1) * dev.sectorsPerBlk + dev.availSectPerBlk - 1 ∈
      blockSectors dev (dev.neraseblocks - 1) := by
    simp only [blockSectors, List.mem_range'_1]
    split at avail <;> omega
  refine erasedUsable_lt last ?_
  split at avail <;> omega

/-! ## Formatting -/

theorem smartSetsectorsize_same {dev : SmartStruct} (same : dev.sectorsize = smartSectorSize) :
    smartSetsectorsize dev smartSectorSize = .ok dev := by
  simp [smartSetsectorsize, same]

theorem smartSetsectorsize_of_ne {dev : SmartStruct} {size : Nat} (positive : size ≠ 0)
    (new : size ≠ dev.sectorsize) (erase : dev.mtd.erasesize ≠ 0)
    (fits : dev.mtd.erasesize / size ≤ 256)
    (small : dev.mtd.neraseblocks * (dev.mtd.erasesize / size) ≤ 65536) :
    smartSetsectorsize dev size = .ok { dev with
      sectorsize := size, erasesize := dev.mtd.erasesize, neraseblocks := dev.mtd.neraseblocks,
      mtdBlksPerSector := size / dev.mtd.blocksize, sectorsPerBlk := dev.mtd.erasesize / size,
      availSectPerBlk := if dev.mtd.erasesize / size = 256 then 255 else dev.mtd.erasesize / size,
      totalsectors := if dev.mtd.neraseblocks * (dev.mtd.erasesize / size) = 65536 then 65534
        else dev.mtd.neraseblocks * (dev.mtd.erasesize / size) } := by
  simp only [smartSetsectorsize, if_neg positive, if_neg new, if_neg erase, gt_iff_lt,
    if_neg (Nat.not_lt.mpr fits), if_neg (Nat.not_lt.mpr small)]
  split <;> simp_all

/-- `dev` has the geometry `smart_setsectorsize` computes for its partition at the default
sector size. -/
structure Geometry (dev : SmartStruct) : Prop where
  sectorsize : dev.sectorsize = smartSectorSize
  erasesize : dev.erasesize = dev.mtd.erasesize
  neraseblocks : dev.neraseblocks = dev.mtd.neraseblocks
  mtdBlksPerSector : dev.mtdBlksPerSector = smartSectorSize / dev.mtd.blocksize
  sectorsPerBlk : dev.sectorsPerBlk = dev.mtd.erasesize / smartSectorSize
  availSectPerBlk : dev.availSectPerBlk = if dev.sectorsPerBlk = 256 then 255 else dev.sectorsPerBlk
  totalsectors : dev.totalsectors =
    if dev.neraseblocks * dev.sectorsPerBlk = 65536 then 65534 else dev.neraseblocks * dev.sectorsPerBlk

section Partition

/-! A partition `smart_llformat` can format: erase blocks of one to 256 sectors of the default
size, and at most 65536 sectors. -/

variable {mtd : Dev} (erase : smartSectorSize ≤ mtd.erasesize)
  (fits : mtd.erasesize / smartSectorSize ≤ 256)
  (small : mtd.neraseblocks * (mtd.erasesize / smartSectorSize) ≤ 65536)

include erase fits small in
theorem smartInitialize_geometry : ∃ dev, smartInitialize mtd = .ok dev ∧ dev.mtd = mtd ∧ Geometry dev := by
  have nonzero : mtd.erasesize ≠ 0 := by
    unfold smartSectorSize at erase
    omega
  have set : smartSetsectorsize (SmartStruct.blank mtd) smartSectorSize = _ :=
    smartSetsectorsize_of_ne (by decide) (by simp [SmartStruct.blank, smartSectorSize]) nonzero fits
      small
  have within : ¬ 65536 < mtd.neraseblocks * (mtd.erasesize / smartSectorSize) := Nat.not_lt.mpr small
  simp only [smartInitialize, set, bind, Except.bind, gt_iff_lt]
  simp only [SmartStruct.blank, within, if_false]
  refine ⟨_, rfl, rfl, rfl, rfl, rfl, rfl, rfl, rfl, ?_⟩
  -- the 65536-sector case is cut to 65534 twice, in `smart_setsectorsize` and here
  dsimp only
  by_cases full : mtd.neraseblocks * (mtd.erasesize / smartSectorSize) = 65536 <;> simp [full]

end Partition

theorem Geometry.room {dev : SmartStruct} (g : Geometry dev) (erase : smartSectorSize ≤ dev.mtd.erasesize)
    (some : 0 < dev.mtd.neraseblocks) : dev.mtdBlksPerSector ≤ dev.mtd.nblocks := by
  have whole : smartSectorSize ≤ dev.mtd.neraseblocks * dev.mtd.erasesize :=
    calc smartSectorSize ≤ dev.mtd.erasesize := erase
      _ ≤ dev.mtd.neraseblocks * dev.mtd.erasesize := Nat.le_mul_of_pos_left _ some
  rw [g.mtdBlksPerSector]
  exact Nat.div_le_div_right whole

section Format

variable {dev : SmartStruct} (g : Geometry dev) (nonzero : dev.erasesize ≠ 0)
  (room : dev.mtdBlksPerSector ≤ dev.mtd.nblocks)

/-- The partition `smart_llformat` leaves: erased, with the format sector at the start. -/
def formatted (dev : SmartStruct) (arg : Nat) : Dev :=
  dev.mtd.bulkerase.store 0 ((formatSector dev.sectorsize arg).take (dev.mtdBlksPerSector * dev.mtd.blocksize))

include g nonzero room in
theorem smartLlformat_eq (arg : Nat) :
    smartLlformat dev arg = .ok { dev with
      mtd := formatted dev arg
      freesectors := dev.availSectPerBlk * dev.neraseblocks - 1
      releasesectors := 0
      releasecount := fun x => if x < dev.neraseblocks then 0 else dev.releasecount x
      freecount := Function.update (fun x => if x < dev.neraseblocks then dev.availSectPerBlk else dev.freecount x)
        0 ((if 0 < dev.neraseblocks then dev.availSectPerBlk else dev.freecount 0) - 1)
      sMap := fun x => if x = 0 then 0 else if x < dev.totalsectors then 0xffff else dev.sMap x } := by
  have write : dev.mtd.bulkerase.bwrite 0 dev.mtdBlksPerSector
      ((formatSector dev.sectorsize arg).take (dev.mtdBlksPerSector * dev.mtd.bulkerase.blocksize)) =
        some (formatted dev arg) := by
    simp [Dev.bwrite, Dev.bulkerase, room, formatted]
  simp only [smartLlformat, smartSetsectorsize_same g.sectorsize, bind, Except.bind, if_neg nonzero,
    write]
  rw [smartSetsectorsize_same (by exact g.sectorsize)]
  -- the loop's test for the last erase block fails at every block it visits
  have freeAt (x : Nat) : (if x < dev.neraseblocks then
      dev.availSectPerBlk - (if x = dev.neraseblocks ∧ dev.totalsectors = 65534 then 2 else 0)
      else dev.freecount x) = if x < dev.neraseblocks then dev.availSectPerBlk else dev.freecount x := by
    by_cases inside : x < dev.neraseblocks
    · simp [inside, Nat.ne_of_lt inside]
    · simp [inside]
  have releaseAt (x : Nat) : (if x < dev.neraseblocks then
      (if x = dev.neraseblocks ∧ dev.totalsectors = 65534 then 2 else 0)
      else dev.releasecount x) = if x < dev.neraseblocks then 0 else dev.releasecount x := by
    by_cases inside : x < dev.neraseblocks
    · simp [inside, Nat.ne_of_lt inside]
    · simp [inside]
  have blocks : (formatted dev arg).neraseblocks = dev.neraseblocks := by
    simp [formatted, Dev.bulkerase, g.neraseblocks]
  simp only [pure, Except.pure, freeAt, releaseAt, blocks]

end Format

/-- On a partition of 65536 sectors, the device `smart_initialize` sets up and `smart_llformat`
formats counts every sector of its last erase block free, though it cannot number the last of
them. -/
theorem llformat_counts_withheld_sectors_free (mtd : Dev) (arg : Nat)
    (sized : mtd.neraseblocks * (mtd.erasesize / smartSectorSize) = 65536)
    (fits : mtd.erasesize / smartSectorSize ≤ 256) :
    ∃ dev dev', smartInitialize mtd = .ok dev ∧ smartLlformat dev arg = .ok dev' ∧
      dev'.totalsectors = 65534 ∧
      dev'.freecount (dev'.neraseblocks - 1) = dev'.availSectPerBlk ∧
      erasedUsable dev' (dev'.neraseblocks - 1) < dev'.freecount (dev'.neraseblocks - 1) := by
  have perBlock : 0 < mtd.erasesize / smartSectorSize :=
    Nat.pos_of_ne_zero fun zero => by simp [zero] at sized
  have erase : smartSectorSize ≤ mtd.erasesize := (Nat.div_pos_iff.mp perBlock).2
  obtain ⟨dev, init, onMtd, g⟩ := smartInitialize_geometry erase fits (Nat.le_of_eq sized)
  have nonzero : dev.erasesize ≠ 0 := by
    rw [g.erasesize, onMtd]
    unfold smartSectorSize at erase
    omega
  -- the format sector lies inside the partition
  have room : dev.mtdBlksPerSector ≤ dev.mtd.nblocks := by
    have some : 0 < mtd.neraseblocks := Nat.pos_of_ne_zero fun zero => by simp [zero] at sized
    rw [← onMtd] at erase some
    exact g.room erase some
  have blocks : dev.neraseblocks * dev.sectorsPerBlk = 65536 := by
    rw [g.neraseblocks, g.sectorsPerBlk, onMtd, sized]
  have total : dev.totalsectors = 65534 := by
    rw [g.totalsectors, if_pos blocks]
  have many : 1 < dev.neraseblocks := by
    have : dev.sectorsPerBlk ≤ 256 := by rw [g.sectorsPerBlk, onMtd]; exact fits
    by_contra few
    have : dev.neraseblocks * dev.sectorsPerBlk ≤ 1 * 256 := Nat.mul_le_mul (by omega) this
    omega
  have lastBlock : dev.neraseblocks - 1 < dev.neraseblocks := by omega
  have notFirst : dev.neraseblocks - 1 ≠ 0 := by omega
  refine ⟨dev, _, init, smartLlformat_eq g nonzero room arg, total, ?_, ?_⟩
  · simp [Function.update_of_ne notFirst, lastBlock]
  · -- the formatted device keeps the geometry, and with it the withheld sectors
    have perBlock' : 0 < dev.sectorsPerBlk := by rw [g.sectorsPerBlk, onMtd]; exact perBlock
    refine lt_of_lt_of_eq (erasedUsable_last_lt ?_ ?_ ?_ ?_) ?_
    · exact blocks
    · exact total
    · exact perBlock'
    · exact g.availSectPerBlk
    · simp [Function.update_of_ne notFirst, lastBlock]

/-- The 512-byte blocks of the devices below; every device names this one proof of it. -/
theorem blocksize512_pos : 0 < 512 := by decide

/-- A 64 MiB partition: 1024 erase blocks of 64 KiB, read and written in 512-byte blocks. -/
def partition64m : Dev := ⟨512, 65536, 1024, fun _ => 0xff, false, false, blocksize512_pos⟩

theorem llformat_counts_withheld_sectors_free_64m :
    partition64m.neraseblocks * (partition64m.erasesize / smartSectorSize) = 65536 ∧
    partition64m.erasesize / smartSectorSize ≤ 256 ∧
    ∃ dev dev', smartInitialize partition64m = .ok dev ∧ smartLlformat dev 1 = .ok dev' ∧
      dev'.totalsectors = 65534 ∧
      dev'.freecount (dev'.neraseblocks - 1) = dev'.availSectPerBlk ∧
      erasedUsable dev' (dev'.neraseblocks - 1) < dev'.freecount (dev'.neraseblocks - 1) :=
  ⟨by decide, by decide, llformat_counts_withheld_sectors_free partition64m 1 (by decide) (by decide)⟩

end TinyAra.Fs.Smart
