/-
# Fs.SmartCollect -- garbage collection of the SMART layer

`smart_garbagecollect` loops while the device is short of free sectors. Each round picks the
first erase block with the most released sectors.  `smart_relocate_block` then copies the
block's live sectors to free sectors elsewhere (`smart_findfreephyssector`,
`smart_relocate_sector`), erases it, and moves its released sectors to the free ones.

On a device of 65534 sectors, the last erase block's two withheld sectors are meant to stay
counted as released ("pre-released").  `smart_relocate_block` tests for the last block with
`x == dev->neraseblocks` after its loop over sectors, where `x` is the sector after the block.
So the test picks the block that ends at sector number `neraseblocks`, block 15 of 1024 blocks
of 64 sectors, and gives it two released sectors it does not have. Once that block holds no
live data and just those two released sectors, a round erases it and leaves every count as it
was, and the loop never ends.

* `collectScan_first`: the block a round picks is the first with the most released sectors;
* `smartRelocateBlock_idle`: relocating a block without live data erases it and moves
  `oldrelease - prerelease` sectors from released to free;
* `Stuck` and `garbagecollect_never_returns`: on a device short of free sectors whose first
  block with the most released sectors is such a block, every round comes back to a stuck
  device.
-/
import TinyAra.Fs.SmartSector
import TinyAra.Lib.Loop

namespace TinyAra.Fs.SmartCollect

variable {dev a b : SmartStruct}

open MtdConfig (Dev ok mtdErasedFlags)
open Smart SmartSector

set_option autoImplicit false

def enospc : Int := 28

def smartStatusCrc : UInt8 := 0x20

/-! ## Finding a free sector -/

/-- The block loop of `smart_findfreephyssector`: `n` erase blocks from `block`, going round
past the last, and the one with the most free sectors. The last block visited is taken only
when no other has a free sector. -/
def allocScan (dev : SmartStruct) : Nat → Nat → Nat → Nat × Nat → Nat × Nat
  | 0, _, _, best => best
  | n + 1, x, block, (allocblock, allocfreecount) =>
    let count := dev.freecount block
    let best :=
      if count > allocfreecount ∧ (x < dev.neraseblocks - 1 ∨ allocfreecount = 0) then (block, count)
      else (allocblock, allocfreecount)
    allocScan dev n (x + 1) (if block + 1 ≥ dev.neraseblocks then 0 else block + 1) best

/-- The sector loop of `smart_findfreephyssector`: the first of `n` physical sectors from `x`
whose header reads erased; `none` when a header cannot be read. -/
def freeScan (dev : SmartStruct) : Nat → Nat → Option (Option Nat)
  | 0, _ => some none
  | n + 1, x =>
    match physHeader dev x with
    | none => none
    | some header => if header.isFree then some (some x) else freeScan dev n (x + 1)

/-- `smart_findfreephyssector(dev, FALSE)` without wear leveling (`CONFIG_MTD_SMART_WEAR_LEVEL`
off): the physical sector to allocate, or 0xffff, with the new `dev->lastallocblock`. -/
def smartFindfreephyssector (dev : SmartStruct) (lastallocblock : Nat) : Nat × Nat :=
  let lastallocblock := if lastallocblock + 1 ≥ dev.neraseblocks then 0 else lastallocblock + 1
  let allocblock := (allocScan dev dev.neraseblocks 0 lastallocblock (0xffff, 0)).1
  if allocblock = 0xffff then (0xffff, lastallocblock)
  else
    match freeScan dev dev.availSectPerBlk (allocblock * dev.sectorsPerBlk) with
    -- a failed read returns -1, which the `uint16_t` result makes 0xffff
    | none => (0xffff, lastallocblock)
    | some none => (0xffff, lastallocblock)
    | some (some x) => (x, allocblock)

/-! ## Relocating a block -/

/-- The sequence number `smart_relocate_sector` gives the copy: the 8-bit one of a header with
the CRC status bit, the 16-bit one in `seq` and `crc8` otherwise, never the erased value. -/
def nextSeq (status seq crc8 : UInt8) : UInt8 × UInt8 :=
  if status &&& smartStatusCrc ≠ 0 then
    let seq := seq + 1
    (if seq = 0xff then 1 else seq, crc8)
  else
    let tmp : UInt16 := (crc8.toUInt16 <<< 8 &&& 0xff00 ||| seq.toUInt16) + 1
    let seq := (tmp &&& 0xff).toUInt8
    let crc8 := (tmp >>> 8 &&& 0xff).toUInt8
    if seq = 0xff ∧ crc8 = 0xff then (1, 0) else (seq, crc8)

/-- `smart_relocate_sector(dev, oldsector, newsector)` without CRC, with the sector's bytes in
`rwbuffer`: the copy written uncommitted to `newsector` and committed, then the old sector
released. The answer of `MTD_BWRITE` is overwritten before it is tested. -/
def smartRelocateSector (dev : SmartStruct) (rwbuffer : List UInt8) (oldsector newsector : Nat) :
    Int × SmartStruct :=
  let header := SectHeader.decode rwbuffer
  let (seq, crc8) := nextSeq header.status header.seq header.crc8
  let status := header.status ||| smartStatusCommitted
  let rwbuffer := ((rwbuffer.set 2 seq).set 3 crc8).set 4 status
  let dev := { dev with
    mtd := (dev.mtd.bwrite (newsector * dev.mtdBlksPerSector) dev.mtdBlksPerSector rwbuffer).getD dev.mtd }
  let (ret, dev) := smartBytewrite dev (newsector * dev.mtdBlksPerSector * dev.mtd.blocksize + 4)
    [status &&& ~~~smartStatusCommitted]
  if ret < 0 then (ret, dev)
  else
    smartBytewrite dev (oldsector * dev.mtdBlksPerSector * dev.mtd.blocksize + 4)
      [status &&& ~~~(smartStatusReleased ||| smartStatusCommitted)]

/-- The test by which `smart_relocate_block` leaves a sector where it is: free (not committed)
or released. -/
def freeOrReleased (header : SectHeader) : Bool :=
  header.status &&& smartStatusCommitted == 0xff &&& smartStatusCommitted ||
    header.status &&& smartStatusReleased != 0xff &&& smartStatusReleased

/-- The sector loop of `smart_relocate_block`: `n` physical sectors from `x`, each live one
copied to a free sector, its logical sector mapped there and the free count of the sector's
block taken down (a `uint8_t`). -/
def relocateLoop : Nat → Nat → SmartStruct → Nat → Except (Int × SmartStruct × Nat) (SmartStruct × Nat)
  | 0, _, dev, last => .ok (dev, last)
  | n + 1, x, dev, last =>
    match dev.mtd.bread (x * dev.mtdBlksPerSector) dev.mtdBlksPerSector with
    | none => .error (-eio, dev, last)
    | some rwbuffer =>
      let header := SectHeader.decode rwbuffer
      if freeOrReleased header then relocateLoop n (x + 1) dev last
      else
        let (newsector, last) := smartFindfreephyssector dev last
        if newsector = 0xffff then .error (-enospc, dev, last)
        else
          let (ret, dev) := smartRelocateSector dev rwbuffer x newsector
          if ret < 0 then .error (ret, dev, last)
          else
            let block := newsector / dev.sectorsPerBlk
            relocateLoop n (x + 1) { dev with
              sMap := Function.update dev.sMap header.logicalsector newsector
              freecount := Function.update dev.freecount block ((dev.freecount block + 255) % 256) } last

/-- The sectors `smart_relocate_block` pre-releases once its loop has stopped at `x`: two when
`x` equals the number of erase blocks on a device of 65534 sectors. -/
def prereleaseAt (dev : SmartStruct) (x : Nat) : Nat :=
  if x = dev.neraseblocks ∧ dev.totalsectors = 65534 then 2 else 0

/-- `smart_relocate_block(dev, block)`, with `dev->lastallocblock` beside the device. The
result of `MTD_ERASE` is not checked. The wear levels and the procfs counters are left out. -/
def smartRelocateBlock (dev : SmartStruct) (lastallocblock block : Nat) : Int × SmartStruct × Nat :=
  let freecount := dev.freecount block
  let dev := { dev with freecount := Function.update dev.freecount block 0 }
  match relocateLoop dev.availSectPerBlk (block * dev.sectorsPerBlk) dev lastallocblock with
  | .error (ret, dev, last) =>
    -- the block's free count is put back
    (ret, { dev with freecount := Function.update dev.freecount block freecount }, last)
  | .ok (dev, last) =>
    let mtd := (dev.mtd.erase block 1).getD dev.mtd
    -- `x` is where the sector loop stopped: the sector after the block
    let prerelease := prereleaseAt dev (block * dev.sectorsPerBlk + dev.availSectPerBlk)
    let oldrelease := dev.releasecount block
    (ok, { dev with
      mtd
      freesectors := toUint16 (dev.freesectors + (oldrelease - prerelease : Int))
      releasesectors := toUint16 (dev.releasesectors - (oldrelease - prerelease : Int))
      freecount := Function.update dev.freecount block (toUint8 (dev.availSectPerBlk - prerelease : Int))
      releasecount := Function.update dev.releasecount block prerelease }, last)

/-! ## Collecting -/

/-- The block loop of `smart_garbagecollect`: `n` erase blocks from `x`, and the first with the
most released sectors. -/
def collectScan (dev : SmartStruct) : Nat → Nat → Nat × Nat → Nat × Nat
  | 0, _, best => best
  | n + 1, x, (collectblock, releasemax) =>
    collectScan dev n (x + 1)
      (if dev.releasecount x > releasemax then (x, dev.releasecount x) else (collectblock, releasemax))

/-- One round of the `while (collect)` loop of `smart_garbagecollect`, on the device and
`dev->lastallocblock`: it leaves with an answer or goes round again. -/
def garbagecollectRound (s : SmartStruct × Nat) : (Int × SmartStruct × Nat) ⊕ (SmartStruct × Nat) :=
  let (dev, last) := s
  if (dev.releasesectors > dev.freesectors ∧ dev.freesectors < dev.totalsectors >>> 5) ∨
      dev.freesectors ≤ (dev.sectorsPerBlk <<< 0) + 4 then
    let collectblock := (collectScan dev dev.neraseblocks 0 (0xffff, 0)).1
    if collectblock = 0xffff then .inl (-enospc, dev, last)
    else
      let (ret, dev, last) := smartRelocateBlock dev last collectblock
      if ret ≠ ok then .inl (ret, dev, last) else .inr (dev, last)
  else .inl (ok, dev, last)

/-- `smart_garbagecollect(dev)` with at most `fuel` rounds; `none` is a loop still running. -/
def smartGarbagecollect (fuel : Nat) (dev : SmartStruct) (lastallocblock : Nat) :
    Option (Int × SmartStruct × Nat) :=
  Loop.loop garbagecollectRound fuel (dev, lastallocblock)

/-! ## The free sector found -/

/-! ## What each part changes -/

/-! ## A block without live data -/

/-- Every sector of erase block `b` can be read and holds no live data. -/
def Idle (dev : SmartStruct) (b : Nat) : Prop :=
  ∀ x, b * dev.sectorsPerBlk ≤ x → x < b * dev.sectorsPerBlk + dev.availSectPerBlk →
    ∃ rwbuffer, dev.mtd.bread (x * dev.mtdBlksPerSector) dev.mtdBlksPerSector = some rwbuffer ∧
      freeOrReleased (SectHeader.decode rwbuffer) = true

theorem relocateLoop_idle {dev : SmartStruct} (lastallocblock : Nat) :
    ∀ n x, (∀ y, x ≤ y → y < x + n → ∃ rwbuffer,
      dev.mtd.bread (y * dev.mtdBlksPerSector) dev.mtdBlksPerSector = some rwbuffer ∧
        freeOrReleased (SectHeader.decode rwbuffer) = true) →
      relocateLoop n x dev lastallocblock = .ok (dev, lastallocblock)
  | 0, _, _ => rfl
  | n + 1, x, idle => by
    obtain ⟨rwbuffer, read, skip⟩ := idle x (Nat.le_refl x) (by omega)
    simp only [relocateLoop, read, skip, if_true]
    exact relocateLoop_idle lastallocblock n (x + 1) fun y low high => idle y (by omega) (by omega)

theorem smartRelocateBlock_idle {block : Nat} (idle : Idle dev block)
    (lastallocblock : Nat) :
    smartRelocateBlock dev lastallocblock block = (ok, { dev with
      mtd := (dev.mtd.erase block 1).getD dev.mtd
      freesectors := toUint16 (dev.freesectors +
        (dev.releasecount block - prereleaseAt dev (block * dev.sectorsPerBlk + dev.availSectPerBlk) : Int))
      releasesectors := toUint16 (dev.releasesectors -
        (dev.releasecount block - prereleaseAt dev (block * dev.sectorsPerBlk + dev.availSectPerBlk) : Int))
      freecount := Function.update dev.freecount block (toUint8 (dev.availSectPerBlk -
        prereleaseAt dev (block * dev.sectorsPerBlk + dev.availSectPerBlk) : Int))
      releasecount := Function.update dev.releasecount block
        (prereleaseAt dev (block * dev.sectorsPerBlk + dev.availSectPerBlk)) }, lastallocblock) := by
  have loop := @relocateLoop_idle { dev with freecount := Function.update dev.freecount block 0 }
    lastallocblock dev.availSectPerBlk (block * dev.sectorsPerBlk) idle
  simp only [smartRelocateBlock, loop, Function.update_idem]
  rfl

theorem collectScan_keep (dev : SmartStruct) :
    ∀ n x (best : Nat × Nat), (∀ c, x ≤ c → c < x + n → dev.releasecount c ≤ best.2) →
      collectScan dev n x best = best
  | 0, _, _, _ => rfl
  | n + 1, x, (collectblock, releasemax), atMost => by
    have here : ¬ dev.releasecount x > releasemax := Nat.not_lt.mpr (atMost x (Nat.le_refl x) (by omega))
    simp only [collectScan, if_neg here]
    exact collectScan_keep dev n (x + 1) _ fun c low high => atMost c (by omega) (by omega)

theorem collectScan_first (dev : SmartStruct) {b m : Nat} (most : dev.releasecount b = m) :
    ∀ n x (best : Nat × Nat), best.2 < m → x ≤ b → b < x + n →
      (∀ c, x ≤ c → c < b → dev.releasecount c < m) →
      (∀ c, b < c → c < x + n → dev.releasecount c ≤ m) → collectScan dev n x best = (b, m)
  | 0, _, _, _, low, high, _, _ => absurd high (by omega)
  | n + 1, x, (collectblock, releasemax), below, low, high, before, after => by
    by_cases here : x = b
    · -- block `b` beats the best so far, and nothing after it beats `b`
      subst here
      have bigger : m > releasemax := below
      simp only [collectScan, most, if_pos bigger]
      exact collectScan_keep dev n (x + 1) (x, m) fun c low' high' => after c (by omega) (by omega)
    · -- the best so far stays below `m`
      have less := before x (Nat.le_refl x) (by omega)
      simp only [collectScan]
      apply collectScan_first dev most n (x + 1)
      · split
        · exact less
        · exact below
      · omega
      · omega
      · exact fun c low' high' => before c (by omega) high'
      · exact fun c low' high' => after c low' (by omega)

theorem decode_read_status (mem : Nat → UInt8) {o n : Nat} (header : smartSectHeaderSize ≤ n) :
    (SectHeader.decode (Memory.read mem o n)).status = mem (o + 4) := by
  unfold smartSectHeaderSize at header
  exact Memory.getD_read 0 (by omega)

@[simp] theorem blocksize_erase_getD (d : Dev) (start n : Nat) : ((d.erase start n).getD d).blocksize = d.blocksize := by
  unfold Dev.erase
  split <;> rfl

@[simp] theorem erasesize_erase_getD (d : Dev) (start n : Nat) : ((d.erase start n).getD d).erasesize = d.erasesize := by
  unfold Dev.erase
  split <;> rfl

@[simp] theorem neraseblocks_erase_getD (d : Dev) (start n : Nat) :
    ((d.erase start n).getD d).neraseblocks = d.neraseblocks := by
  unfold Dev.erase
  split <;> rfl

theorem Idle.erase {b : Nat} (idle : Idle dev b)
    (tile : dev.sectorsPerBlk * (dev.mtdBlksPerSector * dev.mtd.blocksize) = dev.mtd.erasesize)
    (header : smartSectHeaderSize ≤ dev.mtdBlksPerSector * dev.mtd.blocksize)
    (availLe : dev.availSectPerBlk ≤ dev.sectorsPerBlk) (erasable : b < dev.mtd.neraseblocks) :
    Idle { dev with mtd := (dev.mtd.erase b 1).getD dev.mtd } b := by
  have erased : dev.mtd.erase b 1 = some (dev.mtd.store (b * dev.mtd.erasesize)
      (List.replicate dev.mtd.erasesize mtdErasedFlags)) := by
    simp [Dev.erase, Nat.succ_le_of_lt erasable]
  intro x low high
  dsimp only at low high ⊢
  obtain ⟨rwbuffer, read, -⟩ := idle x low high
  have fits : x * dev.mtdBlksPerSector + dev.mtdBlksPerSector ≤ dev.mtd.nblocks := by
    unfold Dev.bread at read
    split at read
    · assumption
    · cases read
  refine ⟨Memory.read (Memory.write dev.mtd.image (b * dev.mtd.erasesize)
    (List.replicate dev.mtd.erasesize mtdErasedFlags)) (x * dev.mtdBlksPerSector * dev.mtd.blocksize)
    (dev.mtdBlksPerSector * dev.mtd.blocksize), ?_, ?_⟩
  · simp only [erased, Option.getD_some, Dev.bread, Dev.store_nblocks, Dev.store_blocksize, Dev.store_image,
      if_pos fits]
  · -- the status byte of sector `x` lies in the erased block
    have first : b * dev.sectorsPerBlk * (dev.mtdBlksPerSector * dev.mtd.blocksize) ≤
        x * (dev.mtdBlksPerSector * dev.mtd.blocksize) := Nat.mul_le_mul_right _ low
    have last : (x + 1) * (dev.mtdBlksPerSector * dev.mtd.blocksize) ≤
        (b * dev.sectorsPerBlk + dev.sectorsPerBlk) * (dev.mtdBlksPerSector * dev.mtd.blocksize) :=
      Nat.mul_le_mul_right _ (by omega)
    rw [Nat.succ_mul, Nat.add_mul] at last
    have start : b * dev.mtd.erasesize = b * dev.sectorsPerBlk * (dev.mtdBlksPerSector * dev.mtd.blocksize) := by
      rw [← tile, Nat.mul_assoc]
    have addr : x * dev.mtdBlksPerSector * dev.mtd.blocksize = x * (dev.mtdBlksPerSector * dev.mtd.blocksize) :=
      Nat.mul_assoc _ _ _
    unfold smartSectHeaderSize at header
    have byte : Memory.write dev.mtd.image (b * dev.mtd.erasesize) (List.replicate dev.mtd.erasesize mtdErasedFlags)
        (x * dev.mtdBlksPerSector * dev.mtd.blocksize + 4) = mtdErasedFlags := by
      rw [Memory.write_apply (by omega) (by rw [List.length_replicate]; omega), List.getElem_replicate]
    unfold freeOrReleased
    rw [decode_read_status _ (by unfold smartSectHeaderSize; omega), byte]
    decide

/-! ## A collection that does not end -/

/-- A device whose collection is stuck at erase block `b`: it is short of free sectors, `b` is
the first block with the most released sectors, two, and holds no live data, and `b` ends at
the sector numbered like the number of erase blocks on a device of 65534 sectors. -/
structure Stuck (b : Nat) (dev : SmartStruct) : Prop where
  total : dev.totalsectors = 65534
  pastBlock : b * dev.sectorsPerBlk + dev.availSectPerBlk = dev.neraseblocks
  block : b < dev.neraseblocks
  numbered : b < 0xffff
  released : dev.releasecount b = 2
  before : ∀ c < b, dev.releasecount c < 2
  after : ∀ c, b < c → c < dev.neraseblocks → dev.releasecount c ≤ 2
  short : dev.freesectors ≤ dev.sectorsPerBlk + 4
  freeFits : dev.freesectors < 65536
  releaseFits : dev.releasesectors < 65536
  idle : Idle dev b
  tile : dev.sectorsPerBlk * (dev.mtdBlksPerSector * dev.mtd.blocksize) = dev.mtd.erasesize
  header : smartSectHeaderSize ≤ dev.mtdBlksPerSector * dev.mtd.blocksize
  availLe : dev.availSectPerBlk ≤ dev.sectorsPerBlk
  erasable : b < dev.mtd.neraseblocks

theorem Stuck.round {b : Nat} (stuck : Stuck b dev) (last : Nat) :
    ∃ dev', garbagecollectRound (dev, last) = .inr (dev', last) ∧ Stuck b dev' := by
  have pre : prereleaseAt dev (b * dev.sectorsPerBlk + dev.availSectPerBlk) = 2 := by
    simp [prereleaseAt, stuck.pastBlock, stuck.total]
  have collect : (dev.releasesectors > dev.freesectors ∧ dev.freesectors < dev.totalsectors >>> 5) ∨
      dev.freesectors ≤ (dev.sectorsPerBlk <<< 0) + 4 := by
    rw [Nat.shiftLeft_zero]
    exact Or.inr stuck.short
  have picked : collectScan dev dev.neraseblocks 0 (0xffff, 0) = (b, 2) :=
    collectScan_first dev stuck.released dev.neraseblocks 0 (0xffff, 0) (by decide) (Nat.zero_le b)
      (by have := stuck.block; omega) (fun c _ lt => stuck.before c lt)
      (fun c gt lt => stuck.after c gt (by omega))
  have relocated := smartRelocateBlock_idle stuck.idle last
  rw [pre] at relocated
  have round : garbagecollectRound (dev, last) = .inr ((smartRelocateBlock dev last b).2.1, last) := by
    simp only [garbagecollectRound, if_pos collect, picked, if_neg (Nat.ne_of_lt stuck.numbered), relocated,
      ne_eq, not_true_eq_false, if_false]
  refine ⟨_, round, ?_⟩
  rw [relocated]
  -- the erase gives back the two released sectors it takes, so every count is as it was
  have free := stuck.freeFits
  have released := stuck.releaseFits
  dsimp only
  exact {
    total := stuck.total
    pastBlock := stuck.pastBlock
    block := stuck.block
    numbered := stuck.numbered
    released := Function.update_self b 2 dev.releasecount
    before := fun c lt => by
      dsimp only
      rw [Function.update_of_ne (Nat.ne_of_lt lt)]
      exact stuck.before c lt
    after := fun c gt lt => by
      dsimp only
      rw [Function.update_of_ne (Nat.ne_of_gt gt)]
      exact stuck.after c gt lt
    short := by
      dsimp only
      unfold toUint16
      rw [stuck.released]
      have := stuck.short
      omega
    freeFits := by
      dsimp only
      unfold toUint16
      omega
    releaseFits := by
      dsimp only
      unfold toUint16
      omega
    idle := stuck.idle.erase stuck.tile stuck.header stuck.availLe stuck.erasable
    tile := by simpa using stuck.tile
    header := by simpa using stuck.header
    availLe := stuck.availLe
    erasable := by simpa using stuck.erasable }

/-- On a stuck device `smart_garbagecollect` never returns: every fuel is spent. -/
theorem garbagecollect_never_returns {b : Nat} {dev : SmartStruct} (stuck : Stuck b dev)
    (lastallocblock fuel : Nat) : smartGarbagecollect fuel dev lastallocblock = none := by
  refine Loop.loop_diverges (fun s => Stuck b s.1) ?_ fuel (dev, lastallocblock) stuck
  rintro ⟨dev, last⟩ held
  obtain ⟨dev', round, stuck'⟩ := Stuck.round held last
  exact ⟨(dev', last), round, stuck'⟩

/-- The accounting `smart_checkfree` checks (`CONFIG_SMART_LOCAL_CHECKFREE`): the free sectors
are the sum of the per-block free counts. The same holds of the released sectors, and no block
counts more free and released sectors than it uses. -/
structure Accounting (dev : SmartStruct) : Prop where
  free : dev.freesectors = ((List.range dev.neraseblocks).map dev.freecount).sum
  released : dev.releasesectors = ((List.range dev.neraseblocks).map dev.releasecount).sum
  perBlock : ∀ b < dev.neraseblocks, dev.freecount b + dev.releasecount b ≤ dev.availSectPerBlk

/-- Physical sector `x` is released: its header reads committed, with the released bit
cleared. -/
def isReleased (dev : SmartStruct) (x : Nat) : Bool :=
  match physHeader dev x with
  | some h => h.isCommitted && h.status &&& smartStatusReleased == 0
  | none => false

/-- The flash of a 64 MiB partition of 1 KiB sectors, nearly full. Sectors 960 and 961, the
first of erase block 15, are released; the rest of block 15 and the last two sectors are erased;
every other sector holds live data, with its own number as logical sector. -/
def nearlyFullImage (a : Nat) : UInt8 :=
  let x := a / 1024
  if x / 64 = 15 ∧ 2 ≤ x % 64 ∨ 65534 ≤ x then 0xff
  else
    match a % 1024 with
    | 0 => (x % 256).toUInt8
    | 1 => (x / 256).toUInt8
    | 4 => if x / 64 = 15 then 0x29 else 0x69
    | _ => 0

/-- The device on that flash, with the geometry `smart_initialize` gives it and counts that
agree with the flash: block 15 has 62 free and 2 released sectors, the last block 2 free. -/
def nearlyFull : SmartStruct :=
  ⟨⟨512, 65536, 1024, nearlyFullImage, false, false, blocksize512_pos⟩, 1024, 65536, 1024, 2, 64, 64, 65534, 64, 2,
    fun b => if b = 15 then 62 else if b = 1023 then 2 else 0,
    fun b => if b = 15 then 2 else 0,
    fun l => if l < 65534 ∧ l / 64 ≠ 15 then l else 0xffff⟩

theorem nearlyFullImage_status (x : Nat) (block15 : x / 64 = 15) :
    nearlyFullImage (x * 2 * 512 + 4) = if 2 ≤ x % 64 then 0xff else 0x29 := by
  have sector : (x * 2 * 512 + 4) / 1024 = x := by omega
  have offset : (x * 2 * 512 + 4) % 1024 = 4 := by omega
  have low : ¬ 65534 ≤ x := by omega
  by_cases two : 2 ≤ x % 64
  · simp [nearlyFullImage, sector, block15, two]
  · simp [nearlyFullImage, sector, offset, block15, two, low]

theorem nearlyFull_stuck : Stuck 15 nearlyFull where
  total := rfl
  pastBlock := rfl
  block := by decide
  numbered := by decide
  released := rfl
  before := by decide
  after := by
    intro c later _
    show (if c = 15 then 2 else 0) ≤ 2
    rw [if_neg (Nat.ne_of_gt later)]
    decide
  short := by decide
  freeFits := by decide
  releaseFits := by decide
  idle := by
    intro x low high
    have block15 : x / 64 = 15 := by
      change 15 * 64 ≤ x at low
      change x < 15 * 64 + 64 at high
      omega
    have blocks : nearlyFull.mtd.nblocks = 131072 := by decide
    have read : nearlyFull.mtd.bread (x * 2) 2 = some (Memory.read nearlyFullImage (x * 2 * 512) (2 * 512)) := by
      unfold Dev.bread
      rw [if_pos (by rw [blocks]; omega)]
      rfl
    refine ⟨_, read, ?_⟩
    unfold freeOrReleased
    rw [decode_read_status _ (by decide), nearlyFullImage_status x block15]
    split <;> decide
  tile := by decide
  header := by decide
  availLe := by decide
  erasable := by decide

theorem garbagecollect_never_returns_nearlyFull :
    Geometry nearlyFull ∧ Accounting nearlyFull ∧
      (blockSectors nearlyFull 15).countP (isErased nearlyFull) = nearlyFull.freecount 15 ∧
      (blockSectors nearlyFull 15).countP (isReleased nearlyFull) = nearlyFull.releasecount 15 ∧
      Stuck 15 nearlyFull ∧ ∀ fuel, smartGarbagecollect fuel nearlyFull 0 = none :=
  ⟨⟨rfl, rfl, rfl, by decide, by decide, by decide, by decide⟩,
    ⟨by decide +kernel, by decide +kernel, by decide +kernel⟩, by decide +kernel, by decide +kernel,
    nearlyFull_stuck, garbagecollect_never_returns nearlyFull_stuck 0⟩

end TinyAra.Fs.SmartCollect
