/-
# Fs.Smartfs -- reading, writing and seeking an open SmartFS file

A SmartFS file is a chain of logical sectors of the SMART device. Each starts with a 5-byte
chain header: the sector type, the next sector of the chain (0xffff at its end) and the number
of bytes the sector holds (`used`, 0xffff while erased). An open file keeps its position three
ways: the byte position `filepos`, the sector `currsector` it lies in and the offset
`curroffset` in that sector, header included. Appended bytes are written at once, but the
`used` field of their sector is brought up to date only by `smartfs_sync_internal`: until then
`byteswritten` counts them.

The model follows `smartfs_smart.c` with the default options: no sector buffer (it comes with
`CONFIG_MTD_SMART_ENABLE_CRC`), no dynamic header, no journaling, erased state 0xff. The SMART
device is seen through the three ioctls SmartFS makes of it: `BIOC_READSECT`,
`BIOC_WRITESECT` and `BIOC_ALLOCSECT` (`Volume`). Each loop of the C is a function with fuel,
where `none` is a loop that ran out of it. C integers keep their width where a value can leave
its range: `u16` stores a value in a `uint16_t`.

`ByteFile` says what the calls are for: a byte array with a clamped position. Two calls answer
otherwise (`smartfs_io_diverges`):

* `smartfs_seek_internal` measures `SEEK_END` back from the end: it moves to `datlen - offset`;
* `smartfs_read` takes the bytes of the current sector from its `used` field, which a write
  leaves behind until the next sync, so a read after a write reads past the data.
-/
import TinyAra.Lib.Memory

namespace TinyAra.Fs.Smartfs

set_option autoImplicit false

def ok : Int := 0
def eio : Int := 5
def eacces : Int := 13
def einval : Int := 22

/-- `sizeof(struct smartfs_chain_header_s)` without CRC: type, `nextsector[2]`, `used[2]`. -/
def chainHeaderSize : Nat := 5

/-- `offsetof(struct smartfs_chain_header_s, nextsector)` and `offsetof(..., used)`. -/
def nextsectorOffset : Nat := 1
def usedOffset : Nat := 3

/-- `SMARTFS_ERASEDSTATE_16BIT`: an erased 16-bit field, the end of a chain. -/
def smartfsErasedstate16bit : Nat := 0xffff

/-- `SMART_FIRST_ALLOC_SECTOR`: the first logical sector `BIOC_ALLOCSECT` hands out. -/
def smartFirstAllocSector : Nat := 12

/-- A value stored in a `uint16_t`. -/
def u16 (x : Int) : Nat := (x % 65536).toNat

/-- The two bytes of a `uint16_t`, low byte first, as SmartFS stores header fields. -/
def le16Bytes (x : Nat) : List UInt8 := [(x % 256).toUInt8, (x / 256 % 256).toUInt8]

/-- `UINT8_TO_UINT16` of the two bytes of a memory from `o`. -/
def le16 (mem : Nat → UInt8) (o : Nat) : Nat := (mem o).toNat + (mem (o + 1)).toNat * 256

/-- The SMART device under a mounted volume, as its block-driver ioctls present it: logical
sectors below `totalsectors`, each allocated one holding `availbytes` bytes
(`fs_llformat.availbytes`). -/
structure Volume where
  availbytes : Nat
  totalsectors : Nat
  sector : Nat → Option (Nat → UInt8)

namespace Volume

variable (v : Volume)

/-- `BIOC_READSECT` (`smart_readsector`): `count` bytes of a logical sector from `offset`.
A sector past the device or not allocated is refused. -/
def readsect (logsector offset count : Nat) : Except Int (List UInt8) :=
  if v.totalsectors ≤ logsector then .error (-einval)
  else
    match v.sector logsector with
    | none => .error (-einval)
    | some mem => .ok (Memory.read mem offset count)

/-- `BIOC_WRITESECT` (`smart_writesector`): `buffer` stored in a logical sector from `offset`.
Whether the SMART layer programs the bytes in place or relocates the sector, this is what the
sector then holds. -/
def writesect (logsector offset : Nat) (buffer : List UInt8) : Except Int Volume :=
  if v.totalsectors ≤ logsector then .error (-einval)
  else
    match v.sector logsector with
    | none => .error (-einval)
    | some mem => .ok { v with sector := Function.update v.sector logsector (some (Memory.write mem offset buffer)) }

/-- `BIOC_ALLOCSECT` with no sector requested (`smart_allocsector`): the first unallocated
logical sector from `SMART_FIRST_ALLOC_SECTOR`, erased. Running out of physical sectors
(`-ENOSPC`) is the physical layer's and is left out. -/
def allocsect : Except Int (Nat × Volume) :=
  match (List.range' smartFirstAllocSector (v.totalsectors - smartFirstAllocSector)).find?
      (fun x => (v.sector x).isNone) with
  | none => .error (-eio)
  | some x => .ok (x, { v with sector := Function.update v.sector x (some fun _ => 0xff) })

end Volume

/-- `struct smartfs_mountpt_s`, with what these functions use: the volume and the sector buffer
`fs_rwbuffer` shared by all the files of the mount. -/
structure Mountpt where
  vol : Volume
  rwbuffer : Nat → UInt8

namespace Mountpt

/-- The bytes a read placed at the start of `fs_rwbuffer`. -/
def load (fs : Mountpt) (data : List UInt8) : Mountpt :=
  { fs with rwbuffer := Memory.write fs.rwbuffer 0 data }

/-- `SMARTFS_NEXTSECTOR(header)` and `SMARTFS_USED(header)` of the header in `fs_rwbuffer`. -/
def nextsector (fs : Mountpt) : Nat := le16 fs.rwbuffer nextsectorOffset
def used (fs : Mountpt) : Nat := le16 fs.rwbuffer usedOffset

end Mountpt

/-- `struct smartfs_ofile_s` with its entry's fields these functions use: whether it was opened
for writing (`O_WROK`), the first sector and length of the file, and its position. -/
structure Ofile where
  writable : Bool
  firstsector : Nat
  datlen : Nat
  filepos : Nat
  currsector : Nat
  curroffset : Nat
  byteswritten : Nat

/-- `smartfs_sync_internal(fs, sf)`: add the bytes written to the current sector since the last
sync to its `used` field (or set it, while erased). -/
def smartfsSyncInternal (fs : Mountpt) (sf : Ofile) : Int × Mountpt × Ofile :=
  if sf.byteswritten = 0 then (ok, fs, sf)
  else
    match fs.vol.readsect sf.currsector 0 chainHeaderSize with
    | .error ret => (ret, fs, sf)
    | .ok header =>
      let fs := fs.load header
      let used := if fs.used = smartfsErasedstate16bit then sf.byteswritten
        else u16 (fs.used + sf.byteswritten)
      let fs := { fs with rwbuffer := Memory.write fs.rwbuffer usedOffset (le16Bytes used) }
      match fs.vol.writesect sf.currsector usedOffset (le16Bytes used) with
      | .error ret => (ret, fs, sf)
      | .ok vol => (ok, { fs with vol }, { sf with byteswritten := 0 })

/-- The loop of `smartfs_read(filep, buffer, buflen)`, with the bytes read so far in `out`.
Each turn reads the current sector, copies what it holds past the position, and moves to the
next sector when it copied nothing or reached the sector's end. -/
def smartfsReadLoop (buflen : Nat) : Nat → Mountpt → Ofile → List UInt8 →
    Option (Int × List UInt8 × Mountpt × Ofile)
  | 0, _, _, _ => none
  | fuel + 1, fs, sf, out =>
    if out.length = buflen ∨ sf.currsector = smartfsErasedstate16bit then some (out.length, out, fs, sf)
    else
      match fs.vol.readsect sf.currsector 0 fs.vol.availbytes with
      | .error ret => some (ret, out, fs, sf)
      | .ok data =>
        let fs := fs.load data
        let bytesinsector := if fs.used = smartfsErasedstate16bit then 0 else fs.used
        -- `uint16_t` arithmetic: a position past `used` wraps around
        let bytestoread := u16 (bytesinsector - (sf.curroffset - chainHeaderSize : Int))
        let bytestoread := if bytestoread + out.length > buflen then u16 (buflen - out.length) else bytestoread
        let out := out ++ Memory.read fs.rwbuffer sf.curroffset bytestoread
        let sf := { sf with
          filepos := sf.filepos + bytestoread, curroffset := u16 (sf.curroffset + bytestoread) }
        if bytestoread = 0 ∨ sf.curroffset = fs.vol.availbytes then
          let sf := { sf with currsector := fs.nextsector, curroffset := chainHeaderSize }
          if sf.currsector = smartfsErasedstate16bit then some (out.length, out, fs, sf)
          else smartfsReadLoop buflen fuel fs sf out
        else smartfsReadLoop buflen fuel fs sf out

/-- `smartfs_read(filep, buffer, buflen)`: the count it returns, the bytes of `buffer` it
filled, and the state after it. Every turn of its loop copies a byte or moves to another
sector, so there is a turn for each byte and each sector and one more. -/
def smartfsRead (fs : Mountpt) (sf : Ofile) (buflen : Nat) : Option (Int × List UInt8 × Mountpt × Ofile) :=
  smartfsReadLoop buflen (buflen + fs.vol.totalsectors + 1) fs sf []

/-- The first loop of `smartfs_write`: overwrite the file's bytes from the position, up to its
end, `written` bytes of `buffer` done. At a sector's end it follows the chain to the next
sector.  `ok` with the state, or the error of a failed ioctl. -/
def smartfsWriteOverwrite (buffer : List UInt8) : Nat → Mountpt → Ofile → Nat →
    Option (Int × Mountpt × Ofile × Nat)
  | 0, _, _, _ => none
  | fuel + 1, fs, sf, written =>
    let buflen := buffer.length - written
    if sf.filepos < sf.datlen ∧ 0 < buflen then
      let count := u16 (fs.vol.availbytes - sf.curroffset : Int)
      let count := if count > buflen then buflen else count
      let count := if count > sf.datlen - sf.filepos then sf.datlen - sf.filepos else count
      let wrote := if count > 0 then fs.vol.writesect sf.currsector sf.curroffset ((buffer.drop written).take count)
        else .ok fs.vol
      match wrote with
      | .error ret => some (ret, fs, sf, written)
      | .ok vol =>
        let fs := { fs with vol }
        let sf := { sf with filepos := sf.filepos + count, curroffset := u16 (sf.curroffset + count) }
        let written := written + count
        if sf.curroffset = fs.vol.availbytes then
          match fs.vol.readsect sf.currsector 0 chainHeaderSize with
          | .error ret => some (ret, fs, sf, written)
          | .ok header =>
            let fs := fs.load header
            smartfsWriteOverwrite buffer fuel fs
              { sf with curroffset := chainHeaderSize, currsector := fs.nextsector } written
        else smartfsWriteOverwrite buffer fuel fs sf written
    else some (ok, fs, sf, written)

/-- The second loop of `smartfs_write` (without a sector buffer): append the rest of `buffer`
at the end of the current sector, syncing a sector once it is full and chaining a newly
allocated one to it while bytes remain. -/
def smartfsWriteAppend (buffer : List UInt8) : Nat → Mountpt → Ofile → Nat →
    Option (Int × Mountpt × Ofile × Nat)
  | 0, _, _, _ => none
  | fuel + 1, fs, sf, written =>
    let buflen := buffer.length - written
    if buflen = 0 then some (ok, fs, sf, written)
    else
      let count := u16 (fs.vol.availbytes - sf.curroffset : Int)
      let count := if count > buflen then buflen else count
      let wrote := if count > 0 then fs.vol.writesect sf.currsector sf.curroffset ((buffer.drop written).take count)
        else .ok fs.vol
      match wrote with
      | .error ret => some (ret, fs, sf, written)
      | .ok vol =>
        let fs := { fs with vol }
        let sf := { sf with
          datlen := sf.datlen + count, byteswritten := u16 (sf.byteswritten + count),
          filepos := sf.filepos + count, curroffset := u16 (sf.curroffset + count) }
        let written := written + count
        if sf.curroffset = fs.vol.availbytes then
          let (ret, fs, sf) := smartfsSyncInternal fs sf
          if ret ≠ ok then some (ret, fs, sf, written)
          else if 0 < buffer.length - written then
            match fs.vol.allocsect with
            | .error ret => some (ret, fs, sf, written)
            | .ok (sector, vol) =>
              -- the new sector's number goes to the current sector's `nextsector`
              let fs := { fs with vol, rwbuffer := Memory.write fs.rwbuffer nextsectorOffset (le16Bytes sector) }
              match fs.vol.writesect sf.currsector nextsectorOffset (le16Bytes sector) with
              | .error ret => some (ret, fs, sf, written)
              | .ok vol =>
                let fs := { fs with vol }
                smartfsWriteAppend buffer fuel fs
                  { sf with currsector := fs.nextsector, curroffset := chainHeaderSize } written
          else smartfsWriteAppend buffer fuel fs sf written
        else smartfsWriteAppend buffer fuel fs sf written

/-- `smartfs_write(filep, buffer, buflen)`: refused unless the file was opened for writing,
then the overwrite loop and the append loop. It returns the bytes written, or the error of the
ioctl that failed. Each loop turn writes a byte or moves to another sector, and moves only
after a byte, so twice the bytes and one more turns are enough. -/
def smartfsWrite (fs : Mountpt) (sf : Ofile) (buffer : List UInt8) : Option (Int × Mountpt × Ofile) :=
  if !sf.writable then some (-eacces, fs, sf)
  else
    match smartfsWriteOverwrite buffer (2 * buffer.length + 1) fs sf 0 with
    | none => none
    | some (ret, fs, sf, written) =>
      if ret < 0 then some (ret, fs, sf)
      else
        match smartfsWriteAppend buffer (2 * buffer.length + 1) fs sf written with
        | none => none
        | some (ret, fs, sf, written) => if ret < 0 then some (ret, fs, sf) else some (written, fs, sf)

/-- `SEEK_SET`, `SEEK_CUR` and `SEEK_END`. -/
inductive Whence
  | seekSet
  | seekCur
  | seekEnd
  deriving DecidableEq, Repr

/-- The chain walk of `smartfs_seek_internal`: from the sector that starts at `filepos`, go on
to the next sector while the target lies past the current one. -/
def smartfsSeekWalk (newpos : Nat) : Nat → Mountpt → Ofile → Option (Int × Mountpt × Ofile)
  | 0, _, _ => none
  | fuel + 1, fs, sf =>
    if sf.currsector ≠ smartfsErasedstate16bit ∧
        sf.filepos + fs.vol.availbytes - chainHeaderSize < newpos then
      match fs.vol.readsect sf.currsector 0 chainHeaderSize with
      | .error ret => some (ret, fs, sf)
      | .ok header =>
        let fs := fs.load header
        smartfsSeekWalk newpos fuel fs { sf with filepos := sf.filepos + fs.used, currsector := fs.nextsector }
    else some (ok, fs, sf)

/-- `smartfs_seek_internal(fs, sf, offset, whence)`: sync, work out the target and clamp it to
the file, then move there, within the current sector at once, otherwise by walking the chain
from the current sector (forwards) or from the first (backwards). The sync's result is not
looked at. -/
def smartfsSeekInternal (fs : Mountpt) (sf : Ofile) (offset : Int) (whence : Whence) :
    Option (Int × Mountpt × Ofile) :=
  if whence = .seekCur ∧ offset = 0 then some (sf.filepos, fs, sf)
  else
    let (fs, sf) := if 0 < sf.byteswritten then (smartfsSyncInternal fs sf).2 else (fs, sf)
    let newpos : Int := match whence with
      | .seekSet => offset
      | .seekCur => sf.filepos + offset
      | .seekEnd => sf.datlen - offset
    let newpos : Int := if newpos < 0 then 0 else newpos
    let newpos : Int := if newpos > sf.datlen then sf.datlen else newpos
    let sectorstartpos : Int := sf.filepos - (sf.curroffset - chainHeaderSize : Int)
    if sectorstartpos ≤ newpos ∧ newpos < sectorstartpos + fs.vol.availbytes - chainHeaderSize then
      some (newpos, fs, { sf with
        curroffset := u16 (chainHeaderSize + newpos - sectorstartpos), filepos := newpos.toNat })
    else
      let sf := if sf.filepos < newpos then { sf with filepos := sectorstartpos.toNat }
        else { sf with currsector := sf.firstsector, filepos := 0 }
      match smartfsSeekWalk newpos.toNat (fs.vol.totalsectors + 1) fs sf with
      | none => none
      | some (ret, fs, sf) =>
        if ret < 0 then some (ret, fs, sf)
        else some (newpos, fs, { sf with
          curroffset := u16 (chainHeaderSize + newpos - sf.filepos), filepos := newpos.toNat })

/-- The calls a program makes on an open file: `write`, `read`, `lseek` and `fsync`. -/
inductive Request
  | write (buffer : List UInt8)
  | read (buflen : Nat)
  | seek (offset : Int) (whence : Whence)
  | sync

/-- One call: what it returns, the bytes a read fills, and the state after it. -/
def step (fs : Mountpt) (sf : Ofile) : Request → Option (Int × List UInt8 × Mountpt × Ofile)
  | .write buffer => (smartfsWrite fs sf buffer).map fun (ret, fs, sf) => (ret, [], fs, sf)
  | .read buflen => smartfsRead fs sf buflen
  | .seek offset whence => (smartfsSeekInternal fs sf offset whence).map fun (ret, fs, sf) => (ret, [], fs, sf)
  | .sync =>
    let (ret, fs, sf) := smartfsSyncInternal fs sf
    some (ret, [], fs, sf)

/-- A run of calls on one open file: what each returns, with the bytes each read fills. -/
def run (fs : Mountpt) (sf : Ofile) : List Request → Option (List (Int × List UInt8))
  | [] => some []
  | r :: rs => do
    let (ret, bytes, fs, sf) ← step fs sf r
    let rest ← run fs sf rs
    pure ((ret, bytes) :: rest)

/-! ## What a file is for -/

/-- A file as a program sees it: its bytes and a position in them. -/
structure ByteFile where
  data : List UInt8
  pos : Nat

namespace ByteFile

variable (f : ByteFile)

/-- Writing `buffer` overwrites the bytes at the position, or extends the file past its end. -/
def write (buffer : List UInt8) : Int × ByteFile :=
  (buffer.length, ⟨f.data.take f.pos ++ buffer ++ f.data.drop (f.pos + buffer.length), f.pos + buffer.length⟩)

/-- Reading gives the next `buflen` bytes, fewer only at the end of the file. -/
def read (buflen : Nat) : Int × List UInt8 × ByteFile :=
  let bytes := (f.data.drop f.pos).take buflen
  (bytes.length, bytes, { f with pos := f.pos + bytes.length })

/-- Seeking moves to `offset` from the start, the position or the end, clamped to the file. -/
def seek (offset : Int) (whence : Whence) : Int × ByteFile :=
  let target : Int := match whence with
    | .seekSet => offset
    | .seekCur => f.pos + offset
    | .seekEnd => f.data.length + offset
  let pos := min (max target 0) f.data.length
  (pos, { f with pos := pos.toNat })

def run : ByteFile → List Request → List (Int × List UInt8)
  | _, [] => []
  | f, .write buffer :: rs => let (ret, f) := f.write buffer; (ret, []) :: run f rs
  | f, .read buflen :: rs => let (ret, bytes, f) := f.read buflen; (ret, bytes) :: run f rs
  | f, .seek offset whence :: rs => let (ret, f) := f.seek offset whence; (ret, []) :: run f rs
  | f, .sync :: rs => (ok, []) :: run f rs

end ByteFile

/-- A volume of 20 logical sectors of 1024-byte SMART sectors, 1019 bytes each, where sector 12
is the first sector of a new file, still erased. -/
def newVolume : Mountpt :=
  ⟨⟨1019, 20, fun x => if x = 12 then some fun _ => 0xff else none⟩, fun _ => 0xff⟩

/-- The new file as `smartfs_open` leaves it, opened for writing: empty, at its start. -/
def newOfile : Ofile := ⟨true, 12, 0, 0, 12, chainHeaderSize, 0⟩

/-- Three bytes written to a new file, a read at its end, a seek back to the start, a read of
the file, and a seek to one byte before the end: SmartFS answers the read at the end with four
erased bytes past the data, and the seek with the end of the file. -/
theorem smartfs_io_diverges :
    run newVolume newOfile [.write [1, 2, 3], .read 4, .seek 0 .seekSet, .read 10, .seek (-1) .seekEnd] =
      some [(3, []), (4, [0xff, 0xff, 0xff, 0xff]), (0, []), (3, [1, 2, 3]), (3, [])] ∧
    ByteFile.run ⟨[], 0⟩ [.write [1, 2, 3], .read 4, .seek 0 .seekSet, .read 10, .seek (-1) .seekEnd] =
      [(3, []), (0, []), (0, []), (3, [1, 2, 3]), (2, [])] :=
  ⟨by decide +kernel, by decide⟩

end TinyAra.Fs.Smartfs
