/-
# Fs.MtdConfig -- the config-data partition on an MTD device

`mtd_config.c` keeps configuration items as a log on an MTD partition. Erase block 0 starts
with the signature "CD" and the format version, and every erase block has room for such a
3-byte block header. After it come the entries, each a packed 6-byte header (flags, instance,
id, length) and its data. An entry is active while its flags are still erased (0xff), and
released once they are cleared. An all-erased header marks the free space of its block.

A set releases the old entry of its key, then looks for a free slot with room for the new one.
When it finds none it consolidates the partition and looks again, once. Consolidation is done
in RAM when there is a single erase block or with `CONFIG_MTD_CONFIG_RAM_CONSOLIDATE`.
Otherwise it goes through the last erase block, which is kept erased for that.

The partition is a memory of bytes (`Lib.Memory`) behind the MTD calls the driver makes, each
refusing a block past the end of the partition as `part_bread` does. The scans and the two consolidations are modelled loop by loop, with fuel, where
`none` is a loop that ran out of it.
-/
import TinyAra.Lib.Memory
import Mathlib

namespace TinyAra.Fs.MtdConfig

set_option autoImplicit false

/-- `OK` and the errno values the driver returns. -/
def ok : Int := 0
def eio : Int := 5
def enxio : Int := 6
def enomem : Int := 12
def enosys : Int := 38

def configdataFormatVersion : UInt8 := 1

/-- `CONFIGDATA_BLOCK_HDR_SIZE`: the room kept at the start of every erase block. -/
def configdataBlockHdrSize : Nat := 3

/-- `MTD_ERASED_ID` and `MTD_ERASED_FLAGS`, for `CONFIG_MTD_CONFIG_ERASEDVALUE` 0xff. -/
def mtdErasedId : Nat := 0xffff
def mtdErasedFlags : UInt8 := 0xff

/-- `sizeof(struct mtdconfig_header_s)`: the header is packed. -/
def headerSize : Nat := 6

/-- The format signature written at offset 0. -/
def signature : List UInt8 := [67, 68, configdataFormatVersion]

/-- `struct mtdconfig_struct_s` with the partition it contains: the geometry `MTDIOC_GEOMETRY`
reported, the bytes of the partition, whether the MTD has a byte `write` (with
`CONFIG_MTD_BYTE_WRITE`), and the build's `CONFIG_MTD_CONFIG_RAM_CONSOLIDATE`. -/
structure Dev where
  blocksize : Nat
  erasesize : Nat
  neraseblocks : Nat
  image : Nat → UInt8
  byteWrite : Bool
  ramConsolidate : Bool
  blocksize_pos : 0 < blocksize

namespace Dev

variable (d : Dev)

def nblocks : Nat := d.neraseblocks * d.erasesize / d.blocksize

/-- The fuel of the driver's loops: one step for each byte of the partition and one more. -/
def fuel : Nat := d.neraseblocks * d.erasesize + 1

def store (offset : Nat) (bytes : List UInt8) : Dev :=
  { d with image := Memory.write d.image offset bytes }

/-- `MTD_BREAD(mtd, start, n, buf)`; past the end of the partition it fails. -/
def bread (start n : Nat) : Option (List UInt8) :=
  if start + n ≤ d.nblocks then some (Memory.read d.image (start * d.blocksize) (n * d.blocksize))
  else none

def bwrite (start n : Nat) (buf : List UInt8) : Option Dev :=
  if start + n ≤ d.nblocks then some (d.store (start * d.blocksize) buf) else none

/-- `MTD_READ(mtd, offset, n, buf)`. -/
def read (offset n : Nat) : Option (List UInt8) :=
  if offset + n ≤ d.nblocks * d.blocksize then some (Memory.read d.image offset n) else none

/-- `MTD_WRITE(mtd, offset, n, buf)`. -/
def write (offset : Nat) (buf : List UInt8) : Option Dev :=
  if offset + buf.length ≤ d.nblocks * d.blocksize then some (d.store offset buf) else none

/-- `MTD_ERASE(mtd, start, n)`: the erase blocks back to the erased value. -/
def erase (start n : Nat) : Option Dev :=
  if start + n ≤ d.neraseblocks then
    some (d.store (start * d.erasesize) (List.replicate (n * d.erasesize) mtdErasedFlags))
  else none

def bulkerase : Dev := d.store 0 (List.replicate (d.neraseblocks * d.erasesize) mtdErasedFlags)

/-- `endblock`: the erase blocks entries may use. Without RAM consolidation the last one is
kept for `mtdconfig_consolidate`, unless it is the only one. -/
def endblock : Nat :=
  if d.ramConsolidate then d.neraseblocks else if d.neraseblocks = 1 then 1 else d.neraseblocks - 1

@[simp] theorem store_blocksize (o : Nat) (b : List UInt8) : (d.store o b).blocksize = d.blocksize := rfl
@[simp] theorem store_erasesize (o : Nat) (b : List UInt8) : (d.store o b).erasesize = d.erasesize := rfl
@[simp] theorem store_neraseblocks (o : Nat) (b : List UInt8) :
    (d.store o b).neraseblocks = d.neraseblocks := rfl
@[simp] theorem store_image (o : Nat) (b : List UInt8) :
    (d.store o b).image = Memory.write d.image o b := rfl
@[simp] theorem store_nblocks (o : Nat) (b : List UInt8) : (d.store o b).nblocks = d.nblocks := rfl

/-- The block loop of `mtdconfig_readbytes`: `bytesthisblock` bytes of `block` from
`firstbyte`, then whole blocks, until `bytestoread` bytes are read. The C copies a part of a
block through `dev->buffer` and a whole block straight into `pdata`; both give these bytes. -/
def readbytesLoop : Nat → Nat → Nat → Nat → Nat → Except Int (List UInt8)
  | 0, _, _, _, _ => .ok []
  | fuel + 1, block, firstbyte, bytesthisblock, bytestoread =>
    if bytestoread = 0 then .ok []
    else
      match d.bread block 1 with
      | none => .error (-eio)
      | some buffer =>
        let bytestoread := bytestoread - bytesthisblock
        ((buffer.drop firstbyte).take bytesthisblock ++ ·) <$>
          readbytesLoop fuel (block + 1) 0 (min d.blocksize bytestoread) bytestoread

/-- `mtdconfig_readbytes(dev, offset, pdata, readlen)`. Its test of `dev->mtd->read` is the
wrong way round: an MTD with a `read` method is read a block at a time, as here, and one
without it fails every read shorter than a block. -/
def readbytes (offset readlen : Nat) : Except Int (List UInt8) :=
  let block := offset / d.blocksize
  let firstbyte := offset - block * d.blocksize
  d.readbytesLoop (readlen + 1) block firstbyte (min (d.blocksize - firstbyte) readlen) readlen

end Dev

/-- The block loop of `mtdconfig_writebytes` without a byte `write`: the block `offset` is in
is read, the bytes that fall in it copied in, and the block written back. The result is
`bytes_written`, or `-EIO` with the blocks written so far. -/
def writebytesLoop : Nat → Dev → Nat → List UInt8 → Nat → Int × Dev
  | 0, d, _, _, written => (written, d)
  | fuel + 1, d, offset, pdata, written =>
    if pdata = [] then (written, d)
    else
      let block := offset / d.blocksize
      match d.bread block 1 with
      | none => (-eio, d)
      | some buffer =>
        let index := offset - block * d.blocksize
        let bytesThisBlock := min (d.blocksize - index) pdata.length
        match d.bwrite block 1 (buffer.take index ++ pdata.take bytesThisBlock ++
            buffer.drop (index + bytesThisBlock)) with
        | none => (-eio, d)
        | some d =>
          writebytesLoop fuel d (offset + bytesThisBlock) (pdata.drop bytesThisBlock)
            (written + bytesThisBlock)

/-- `mtdconfig_writebytes(dev, offset, pdata, writelen)`, with `writelen` the length of
`pdata`. -/
def writebytes (d : Dev) (offset : Nat) (pdata : List UInt8) : Int × Dev :=
  if d.byteWrite then
    match d.write offset pdata with
    | some written => (pdata.length, written)
    | none => (-enxio, d)
  else writebytesLoop (pdata.length + 1) d offset pdata 0

/-- `struct mtdconfig_header_s`, packed, with the target's little-endian `uint16_t`s. -/
structure Header where
  flags : UInt8
  «instance» : UInt8
  id : Nat
  len : Nat
  deriving DecidableEq, Repr

def Header.encode (h : Header) : List UInt8 :=
  [h.flags, h.«instance», h.id.toUInt8, (h.id / 256).toUInt8, h.len.toUInt8, (h.len / 256).toUInt8]

def Header.decode (b : List UInt8) : Header :=
  ⟨b.getD 0 0, b.getD 1 0, (b.getD 2 0).toNat + 256 * (b.getD 3 0).toNat,
    (b.getD 4 0).toNat + 256 * (b.getD 5 0).toNat⟩

/-- A caller's `struct mtdconfig_header_s hdr` before anything is read into it. The stack
variable is not initialised; the model starts it erased, and no run of the model reads it
before a scan has. -/
def uninitialized : Header := ⟨mtdErasedFlags, 0xff, mtdErasedId, 0xffff⟩

/-- `struct config_data_s`: the key, and the buffer, whose length is `len`. -/
structure ConfigData where
  id : UInt16
  «instance» : Int
  configdata : List UInt8
  deriving DecidableEq, Repr

/-- `pdata->len`. -/
def ConfigData.len (p : ConfigData) : Nat := p.configdata.length

/-- The key test of `mtdconfig_findentry` and its callers: `pdata->id == hdr.id` and
`pdata->instance == hdr.instance`. -/
def ConfigData.isKey (p : ConfigData) (h : Header) : Prop :=
  p.id.toNat = h.id ∧ p.«instance» = (h.«instance».toNat : Int)

instance (p : ConfigData) (h : Header) : Decidable (p.isKey h) :=
  inferInstanceAs (Decidable (_ ∧ _))

def readHeader (d : Dev) (offset : Nat) : Except Int Header :=
  Header.decode <$> d.readbytes offset headerSize

/-- A header read whose result is not checked: a failed read leaves `hdr` as it was. -/
def readHeaderOr (d : Dev) (offset : Nat) (hdr : Header) : Header :=
  match readHeader d offset with
  | .ok h => h
  | .error _ => hdr

/-- The loop of `mtdconfig_findfirstentry`: headers from `offset`, past the released ones. -/
def findfirstentryFrom (d : Dev) : Nat → Nat → Header → Option (Nat × Header)
  | 0, _, _ => none
  | fuel + 1, offset, hdr =>
    match readHeader d offset with
    | .error _ => some (0, hdr)
    | .ok hdr =>
      if hdr.flags = mtdErasedFlags then some (offset, hdr)
      else
        -- past a released entry; a block with no room left for a header is left for the next
        -- one, and the block header of a block the entry ends just before is skipped, without
        -- a test of `endblock`
        let offset := offset + headerSize + hdr.len
        let block := offset / d.erasesize
        let bytesLeftInBlock := (block + 1) * d.erasesize - offset
        if bytesLeftInBlock ≤ headerSize ∧ d.endblock ≤ block + 1 then some (0, hdr)
        else
          let offset := if bytesLeftInBlock ≤ headerSize then
            (block + 1) * d.erasesize + configdataBlockHdrSize else offset
          let offset := if bytesLeftInBlock = d.erasesize then
            offset + configdataBlockHdrSize else offset
          findfirstentryFrom d fuel offset hdr

/-- `mtdconfig_findfirstentry(dev, phdr)`: the offset of the first header that is not released,
and the header; 0 for a partition without the signature. A failed read of the signature
leaves `sig` uninitialised in the C; the model reads it as no signature. -/
def findfirstentry (d : Dev) (hdr : Header) : Option (Nat × Header) :=
  match d.readbytes 0 configdataBlockHdrSize with
  | .ok sig => if sig = signature then findfirstentryFrom d d.fuel configdataBlockHdrSize hdr
      else some (0, hdr)
  | .error _ => some (0, hdr)

/-- The top of the loop of `mtdconfig_findnextentry`: the offset after the entry at `offset`,
past the block header of a block it ends just before, and past the end of a block with no room
left for a header; `none` at the end of the usable blocks.  `bytes_left_in_block` is a
`uint16_t`. -/
def nextOffset (d : Dev) (offset : Nat) (hdr : Header) : Option Nat :=
  let offset := offset + headerSize + hdr.len
  let offset := if offset % d.erasesize = 0 then offset + configdataBlockHdrSize else offset
  if d.endblock * d.erasesize ≤ offset then none
  else
    let block := offset / d.erasesize
    if ((block + 1) * d.erasesize - offset) % 2 ^ 16 ≤ headerSize then
      if d.endblock ≤ block + 1 then none
      else some ((block + 1) * d.erasesize + configdataBlockHdrSize)
    else some offset

/-- From `read_next:` in `mtdconfig_findnextentry`: the header at `offset` and the ones after
it. With `size = 0` it looks for an active entry, and otherwise for the free space of a block
with room for a header and `size` bytes. -/
def findnextentryAt (d : Dev) (size : Nat) : Nat → Nat → Header → Option (Nat × Header)
  | 0, _, _ => none
  | fuel + 1, offset, hdr =>
    match readHeader d offset with
    | .error _ => some (0, hdr)
    | .ok hdr =>
      if hdr.flags = mtdErasedFlags ∧ hdr.id = mtdErasedId then
        -- the free space of a block: big enough, or `goto read_next` at the next block
        let block := offset / d.erasesize
        if 0 < size ∧ size + headerSize ≤ ((block + 1) * d.erasesize - offset) % 2 ^ 16 then
          some (offset, hdr)
        else if d.endblock ≤ block + 1 then some (0, hdr)
        else findnextentryAt d size fuel ((block + 1) * d.erasesize + configdataBlockHdrSize) hdr
      else if hdr.flags = mtdErasedFlags ∧ size = 0 then some (offset, hdr)
      else
        match nextOffset d offset hdr with
        | none => some (0, hdr)
        | some offset => findnextentryAt d size fuel offset hdr

/-- `mtdconfig_findnextentry(dev, offset, phdr, size)`: 0 when there is no such entry. -/
def findnextentry (d : Dev) (offset : Nat) (hdr : Header) (size : Nat) : Option (Nat × Header) :=
  match nextOffset d offset hdr with
  | none => some (0, hdr)
  | some offset => findnextentryAt d size d.fuel offset hdr

/-- The loop of `mtdconfig_findentry`: from the header at `offset`, the first with the key of
`pdata`, or 0. -/
def findentryFrom (d : Dev) (pdata : ConfigData) : Nat → Nat → Header → Option (Nat × Header)
  | 0, _, _ => none
  | fuel + 1, offset, hdr =>
    if offset = 0 ∨ pdata.isKey hdr then some (offset, hdr)
    else if hdr.id = mtdErasedId then
      -- the rest of the block is free: the first header of the next block
      let offset := (offset + d.erasesize) / d.erasesize * d.erasesize + configdataBlockHdrSize
      if d.endblock * d.erasesize ≤ offset then some (0, hdr)
      else
        let hdr := readHeaderOr d offset hdr
        if hdr.flags = mtdErasedFlags then findentryFrom d pdata fuel offset hdr
        else (findnextentry d offset hdr 0).bind fun (offset, hdr) =>
          findentryFrom d pdata fuel offset hdr
    else (findnextentry d offset hdr 0).bind fun (offset, hdr) =>
      findentryFrom d pdata fuel offset hdr

def findentry (d : Dev) (offset : Nat) (pdata : ConfigData) (hdr : Header) :
    Option (Nat × Header) :=
  findentryFrom d pdata d.fuel offset hdr

/-- The copy loop of `mtdconfig_ramconsolidate` over one erase block held in `pBuf`: each
active entry is written at `dst_offset`, in the next block when this one has too little room
left. An error of the header write is `goto errout`, with the partition as it is then. -/
def ramconsolidateCopy (pBuf : List UInt8) :
    Nat → Dev → Nat → Nat → Nat → Option (Except Dev (Dev × Nat × Nat))
  | 0, _, _, _, _ => none
  | fuel + 1, d, srcOffset, dstBlock, dstOffset =>
    if d.erasesize ≤ srcOffset then some (.ok (d, dstBlock, dstOffset))
    else
      let phdr := Header.decode (pBuf.drop srcOffset)
      if phdr.id = mtdErasedId then some (.ok (d, dstBlock, dstOffset))
      else
        let next := srcOffset + headerSize + phdr.len
        let next := if d.erasesize < next + headerSize then d.erasesize else next
        if phdr.flags = mtdErasedFlags then
          let (dstBlock, dstOffset) :=
            if (dstBlock + 1) * d.erasesize - dstOffset < headerSize + phdr.len then
              (dstBlock + 1, (dstBlock + 1) * d.erasesize + configdataBlockHdrSize)
            else (dstBlock, dstOffset)
          let (ret, d) := writebytes d dstOffset ((pBuf.drop srcOffset).take headerSize)
          if ret < 0 then some (.error d)
          else
            let dstOffset := dstOffset + headerSize
            let d := (writebytes d dstOffset ((pBuf.drop (srcOffset + headerSize)).take phdr.len)).2
            let dstOffset := dstOffset + phdr.len
            let (dstBlock, dstOffset) :=
              if (dstBlock + 1) * d.erasesize ≤ dstOffset + headerSize ∨
                  dstOffset = (dstBlock + 1) * d.erasesize then
                (dstBlock + 1, (dstBlock + 1) * d.erasesize + configdataBlockHdrSize)
              else (dstBlock, dstOffset)
            ramconsolidateCopy pBuf fuel d next dstBlock dstOffset
        else ramconsolidateCopy pBuf fuel d next dstBlock dstOffset

/-- The block loop of `mtdconfig_ramconsolidate`: each erase block is read into `pBuf`, erased,
and its active entries written back from `dst_offset` on. The result is `dst_offset`, 0 after
an error. -/
def ramconsolidateFrom : Nat → Dev → Nat → Nat → Nat → Option (Nat × Dev)
  | 0, _, _, _, _ => none
  | fuel + 1, d, srcBlock, dstBlock, dstOffset =>
    if d.neraseblocks ≤ srcBlock then some (dstOffset, d)
    else
      let blkper := d.erasesize / d.blocksize
      match d.bread (srcBlock * blkper) blkper with
      | none => some (0, d)
      | some pBuf =>
        match d.erase srcBlock 1 with
        | none => some (0, d)
        | some d =>
          let d := if srcBlock = 0 then (writebytes d 0 signature).2 else d
          match ramconsolidateCopy pBuf d.fuel d configdataBlockHdrSize dstBlock dstOffset with
          | none => none
          | some (.error d) => some (0, d)
          | some (.ok (d, dstBlock, dstOffset)) =>
            ramconsolidateFrom fuel d (srcBlock + 1) dstBlock dstOffset

def ramconsolidate (d : Dev) : Option (Nat × Dev) :=
  ramconsolidateFrom (d.neraseblocks + 1) d 0 0 configdataBlockHdrSize

/-- The copy of erase block 0 to the last one in `mtdconfig_consolidate`, a block at a time; an
error is `goto errout`, with the partition as it is then. -/
def copyBlocks : Nat → Dev → Nat → Nat → Except Dev Dev
  | 0, d, _, _ => .ok d
  | n + 1, d, src, dst =>
    match d.bread src 1 with
    | none => .error d
    | some buffer =>
      match d.bwrite dst 1 buffer with
      | none => .error d
      | some d => copyBlocks n d (src + 1) (dst + 1)

/-- The `while (hdr.len)` loop of `mtdconfig_consolidate`: the data moved through `pBuf` a
block size at a time. The reads are not checked, so a failed one writes what `pBuf` held. -/
def moveData : Nat → Dev → List UInt8 → Nat → Nat → Nat → Dev × List UInt8
  | 0, d, pBuf, _, _, _ => (d, pBuf)
  | fuel + 1, d, pBuf, src, dst, len =>
    if len = 0 then (d, pBuf)
    else
      let bytes := min len d.blocksize
      let pBuf := match d.readbytes src bytes with
        | .ok read => read
        | .error _ => pBuf
      let d := (writebytes d dst (pBuf.take bytes)).2
      moveData fuel d pBuf (src + bytes) (dst + bytes) (len - bytes)

/-- The loop of `mtdconfig_consolidate` from erase block 1 on: each active entry is moved to
`dst_offset`, and each source block erased once it is left. An entry that does not fit in the
destination block moves the destination on and is read again (`goto retry_relocate`). The
header read is not checked, so a failed one leaves `hdr` as it was. -/
def consolidateFrom : Nat → Dev → Header → List UInt8 → Nat → Nat → Nat → Nat → Option Dev
  | 0, _, _, _, _, _, _, _ => none
  | fuel + 1, d, hdr, pBuf, srcBlock, srcOffset, dstBlock, dstOffset =>
    if d.neraseblocks ≤ srcBlock then some d
    else
      let hdr := match d.read srcOffset headerSize with
        | some b => Header.decode b
        | none => hdr
      if hdr.flags = mtdErasedFlags ∧ hdr.id ≠ mtdErasedId ∧
          ((dstBlock + 1) * d.erasesize - dstOffset) % 2 ^ 16 < hdr.len + headerSize then
        consolidateFrom fuel d hdr pBuf srcBlock srcOffset (dstBlock + 1)
          ((dstBlock + 1) * d.erasesize + configdataBlockHdrSize)
      else
        let blockEnd := (srcBlock + 1) * d.erasesize
        let (d, hdr, pBuf, srcOffset, dstOffset) :=
          if hdr.flags = mtdErasedFlags then
            if hdr.id = mtdErasedId then (d, hdr, pBuf, blockEnd + configdataBlockHdrSize, dstOffset)
            else
              let d := (writebytes d dstOffset hdr.encode).2
              let (d, pBuf) := moveData (hdr.len + 1) d pBuf (srcOffset + headerSize)
                (dstOffset + headerSize) hdr.len
              -- the copy counts `hdr.len` down to 0
              (d, { hdr with len := 0 }, pBuf, srcOffset + headerSize + hdr.len,
                dstOffset + headerSize + hdr.len)
          else
            let srcOffset := srcOffset + headerSize + hdr.len
            let srcOffset := if blockEnd ≤ srcOffset + headerSize ∨ srcOffset = blockEnd then
              blockEnd + configdataBlockHdrSize else srcOffset
            (d, hdr, pBuf, srcOffset, dstOffset)
        let srcOffset := if blockEnd ≤ srcOffset + headerSize then
          blockEnd + configdataBlockHdrSize else srcOffset
        let (d, srcBlock) := if srcBlock ≠ srcOffset / d.erasesize then
          ((d.erase srcBlock 1).getD d, srcBlock + 1) else (d, srcBlock)
        let (dstBlock, dstOffset) := if (dstBlock + 1) * d.erasesize ≤ dstOffset + headerSize then
          (dstBlock + 1, (dstBlock + 1) * d.erasesize + configdataBlockHdrSize)
          else (dstBlock, dstOffset)
        consolidateFrom fuel d hdr pBuf srcBlock srcOffset dstBlock dstOffset

/-- `mtdconfig_consolidate(dev)`: erase block 0 is copied to the last erase block, which is
erased first, and block 0 is erased and signed; then the entries of blocks 1 to the last are
moved down from the start of block 0. The buffer a fresh `kmm_malloc` returns is modelled
empty: only a failed read would show its contents. -/
def consolidate (d : Dev) : Option (Nat × Dev) :=
  let dstBlock := d.neraseblocks - 1
  let d := (d.erase dstBlock 1).getD d
  let blkper := d.erasesize / d.blocksize
  match copyBlocks blkper d 0 (dstBlock * blkper) with
  | .error d => some (0, d)
  | .ok d =>
    let d := (d.erase 0 1).getD d
    let d := (writebytes d 0 signature).2
    (consolidateFrom d.fuel d uninitialized [] 1 (d.erasesize + configdataBlockHdrSize) 0
      configdataBlockHdrSize).map fun d => (0, d)

/-- The consolidation `mtdconfig_setconfig` makes when no block has room: `ram_consolidate`. -/
def consolidateFor (d : Dev) : Option Dev :=
  if d.ramConsolidate ∨ d.neraseblocks = 1 then (ramconsolidate d).map Prod.snd
  else (consolidate d).map Prod.snd

/-- The end of `mtdconfig_setconfig`: the new entry written at `offset`, its header and then
its data. After a short data write the flags byte is written again with the erased value, so
the torn entry stays active. -/
def writeEntry (d : Dev) (pdata : ConfigData) (offset : Nat) (ret : Int) : Int × Dev :=
  if offset = 0 then (ret, d)
  else
    let hdr : Header :=
      ⟨mtdErasedFlags, (pdata.«instance» % 256).toNat.toUInt8, pdata.id.toNat, pdata.len % 2 ^ 16⟩
    let d := (writebytes d offset hdr.encode).2
    let (bytes, d) := writebytes d (offset + headerSize) pdata.configdata
    if bytes ≠ pdata.len then (-eio, (writebytes d offset [hdr.flags]).2)
    else (ok, d)

/-- `retry_find:` in `mtdconfig_setconfig`: the first header that is not released, if it is
free with room for the item, or else the next free one with room (`size` is a `uint16_t`).
`full` is what follows when there is none. -/
def retryFindWith (d : Dev) (pdata : ConfigData) (hdr : Header) (ret : Int)
    (full : Dev → Header → Option (Int × Dev)) : Option (Int × Dev) := do
  let (offset, hdr) ← findfirstentry d hdr
  -- a free first header without room is searched past, as if it were active (`hdr.id = 1`)
  let block := offset / d.erasesize
  let hdr := if 0 < offset ∧ hdr.id = mtdErasedId ∧
      (block + 1) * d.erasesize - offset < headerSize + pdata.len then { hdr with id := 1 }
    else hdr
  if hdr.id ≠ mtdErasedId then
    let (offset, hdr) ← findnextentry d offset hdr (pdata.len % 2 ^ 16)
    if offset = 0 then full d hdr else pure (writeEntry d pdata offset ret)
  else pure (writeEntry d pdata offset ret)

/-- `retry_find:` with `retrycount`: the first time no block has room the partition is
consolidated and the search made again, the second time the set fails with `-ENOMEM`. -/
def retryFind (d : Dev) (pdata : ConfigData) (hdr : Header) (ret : Int) : Option (Int × Dev) :=
  retryFindWith d pdata hdr ret fun d hdr => do
    let d ← consolidateFor d
    retryFindWith d pdata hdr ret fun d _ => pure (-enomem, d)

/-- `retry:` in `mtdconfig_setconfig`: the first header, after erasing and signing a partition
without a signature, once. With it, the `ret` the code has then: `-ENOSYS` as it starts, and
the result of the bulk erase after one. -/
def setconfigRetry (d : Dev) : Option (Option (Nat × Header) × Int × Dev) := do
  let (offset, hdr) ← findfirstentry d uninitialized
  if offset ≠ 0 then return (some (offset, hdr), -enosys, d)
  let d := (writebytes d.bulkerase 0 signature).2
  let (offset, hdr) ← findfirstentry d hdr
  if offset ≠ 0 then return (some (offset, hdr), ok, d) else return (none, -enosys, d)

/-- `mtdconfig_setconfig(dev, pdata)`: the old entry of the key is released before a place for
the new one is looked for; a set of length 0 only releases it. -/
def setconfig (d : Dev) (pdata : ConfigData) : Option (Int × Dev) := do
  let (first, ret, d) ← setconfigRetry d
  match first with
  | none => pure (ret, d)
  | some (offset, hdr) =>
    let (offset, hdr) ← findentry d offset pdata hdr
    let (d, hdr) := if 0 < offset ∧ pdata.isKey hdr then
        ((writebytes d offset [~~~mtdErasedFlags]).2, { hdr with flags := ~~~mtdErasedFlags })
      else (d, hdr)
    if pdata.len = 0 then pure (ok, d) else retryFind d pdata hdr ret

/-- `mtdconfig_getconfig(dev, pdata)`: the data of the entry with the key, as much of it as
the buffer holds, or `-ENOSYS` when there is none. -/
def getconfig (d : Dev) (pdata : ConfigData) : Option (Int × ConfigData) := do
  let (offset, hdr) ← findfirstentry d uninitialized
  let (offset, hdr) ← findentry d offset pdata hdr
  if 0 < offset ∧ pdata.isKey hdr then
    let bytesToRead := min hdr.len pdata.len
    match d.readbytes (offset + headerSize) bytesToRead with
    | .ok bytes => pure (ok, { pdata with configdata := bytes ++ pdata.configdata.drop bytesToRead })
    | .error _ => pure (-eio, pdata)
  else pure (-enosys, pdata)

/-- The requests of `mtdconfig_ioctl`. -/
inductive Request
  | setconfig (pdata : ConfigData)
  | getconfig (pdata : ConfigData)

/-- `mtdconfig_ioctl(filep, cmd, arg)` for `CFGDIOC_SETCONFIG` and `CFGDIOC_GETCONFIG`: the
status, the caller's buffer after the call, and the partition. -/
def ioctl (d : Dev) : Request → Option (Int × ConfigData × Dev)
  | .setconfig pdata => (setconfig d pdata).map fun (ret, d) => (ret, pdata, d)
  | .getconfig pdata => (getconfig d pdata).map fun (ret, pdata) => (ret, pdata, d)

/-- A sequence of requests on `/dev/config`: the status and the buffer of each. -/
def run (d : Dev) : List Request → Option (List (Int × List UInt8))
  | [] => some []
  | r :: rs => do
    let (ret, pdata, d) ← ioctl d r
    let rest ← run d rs
    pure ((ret, pdata.configdata) :: rest)

def blank (blocksize erasesize neraseblocks : Nat) (byteWrite ramConsolidate : Bool)
    (blocksize_pos : 0 < blocksize) : Dev :=
  ⟨blocksize, erasesize, neraseblocks, fun _ => mtdErasedFlags, byteWrite, ramConsolidate,
    blocksize_pos⟩

/-- An item of instance 0 whose buffer holds `n` copies of `byte`. -/
def item (id : UInt16) (byte : UInt8) (n : Nat) : ConfigData := ⟨id, 0, List.replicate n byte⟩

/-- Two runs from a blank partition with 64-byte erase blocks and items of at most `erasesize - 9`
bytes. With two erase blocks of 16-byte blocks, a 55-byte item fills block 0, a second set of its
key moves it into block 1, the one kept for consolidation, and a set of another key consolidates by
erasing block 1: every set returned OK and the item is gone. With one erase block, a set that finds
no room fails with `-ENOMEM` after releasing the item's old entry. -/
theorem config_partition_loses_items :
    run (blank 16 64 2 false false (by decide))
        [.setconfig (item 1 0xa1 55), .setconfig (item 1 0xb2 55), .getconfig (item 1 0 55),
          .setconfig (item 2 0xc3 1), .getconfig (item 1 0 55)] =
      some [(ok, List.replicate 55 0xa1), (ok, List.replicate 55 0xb2),
        (ok, List.replicate 55 0xb2), (ok, [0xc3]), (-enosys, List.replicate 55 0)] ∧
    run (blank 64 64 1 false false (by decide))
        [.setconfig (item 1 0xa1 20), .setconfig (item 2 0xb2 20), .getconfig (item 1 0 20),
          .setconfig (item 1 0xc3 40), .getconfig (item 1 0 20)] =
      some [(ok, List.replicate 20 0xa1), (ok, List.replicate 20 0xb2),
        (ok, List.replicate 20 0xa1), (-enomem, List.replicate 40 0xc3),
        (-enosys, List.replicate 20 0)] :=
  ⟨by decide +kernel, by decide +kernel⟩

end TinyAra.Fs.MtdConfig
