/-
# Fs.Romfs -- path lookup in a ROMFS image

`fs_romfsutil.c` reads the image through a one-sector cache.  `romfs_devcacheread(offset)` makes
the sector of `offset` the cached one (`rm_cachesector`; in XIP mode `rm_buffer` points at that
sector of the medium) and returns the index `ndx` of `offset` in it; a field is then read as
`rm_buffer[ndx + ...]`. A file header is four big-endian words -- `next`, the offset of the
next header of its directory with the mode in the low four bits, then `info`, `size` and a
checksum -- and the NUL-terminated name, padded to 16 bytes.

The medium is a byte list that reads as zero past its end, and the device's sector reads
succeed. Every read of the cache follows a `romfs_devcacheread` of the offset it reads, except
in `romfs_parsedirentry`: there the fields are read at the `ndx` of the header it was given, in
the sector `romfs_followhardlinks` left cached. So `followhardlinks` is the one function that
returns the sector it leaves.

* `searchdir_chain`: on a finite sibling chain, fuel for its length gives the first header that
  matches; `searchdir_cycle`: on a chain that comes back to a header, with no match on the way,
  the scan runs for every fuel;
* `finddirentry_fails_on_hardlink_and_cycle`: a lookup of a hard link to a file fails with
  `-ENOENT`, and a lookup in a directory whose chain cycles never returns.
-/
import Mathlib.Data.Nat.Bitwise
import Mathlib.Data.List.GetD
import Mathlib.Data.List.TakeWhile
import TinyAra.Lib.ChainScan

namespace TinyAra.Fs.Romfs

set_option autoImplicit false

/-- `ENOENT`, `EIO`, `ENOTDIR`, `EINVAL` and `ELOOP` (errno.h); a call that fails returns the
negated value. -/
def enoent : Nat := 2
def eio : Nat := 5
def enotdir : Nat := 20
def einval : Nat := 22
def eloop : Nat := 40

/-- `ERROR`, the `-1` at the end of `romfs_finddirentry` that the loop never reaches. -/
def error : Nat := 1

/-- The fields of a file header (`ROMFS_FHDR_*`) and of the volume header (`ROMFS_VHDR_*`). -/
def romfsFhdrNext : Nat := 0
def romfsFhdrInfo : Nat := 4
def romfsFhdrSize : Nat := 8
def romfsFhdrName : Nat := 16
def romfsVhdrSize : Nat := 8
def romfsVhdrVolname : Nat := 16

def romfsVhdrMagic : List UInt8 := [45, 114, 111, 109, 49, 102, 115, 45]

/-- `RFNEXT_MODEMASK`, `RFNEXT_ALLMODEMASK` and `RFNEXT_OFFSETMASK` (`~15` as a `uint32_t`). -/
def rfnextModemask : Nat := 7
def rfnextAllmodemask : Nat := 15
def rfnextOffsetmask : Nat := 0xFFFFFFF0

/-- The modes `RFNEXT_HARDLINK`, `RFNEXT_DIRECTORY` and `RFNEXT_FILE`. -/
def rfnextHardlink : Nat := 0
def rfnextDirectory : Nat := 1
def rfnextFile : Nat := 2

def romfsMaxpadding : Nat := 15
def romfsAlignmask : Nat := 0xFFFFFFF0

/-- `ROMF_MAX_LINKS` and `NAME_MAX` (`CONFIG_NAME_MAX`, 32 by default). -/
def romfMaxLinks : Nat := 64
def nameMax : Nat := 32

def slash : UInt8 := 47

/-- `IS_MODE(rfn, mode)`, `IS_HARDLINK`, `IS_DIRECTORY` and `IS_FILE`. -/
def isMode (rfn mode : Nat) : Bool := rfn &&& rfnextModemask = mode
def isHardlink (rfn : Nat) : Bool := isMode rfn rfnextHardlink
def isDirectory (rfn : Nat) : Bool := isMode rfn rfnextDirectory
def isFile (rfn : Nat) : Bool := isMode rfn rfnextFile

def romfsAlignup (addr : Nat) : Nat := (addr + romfsMaxpadding) &&& romfsAlignmask

def strlen (s : List UInt8) : Nat := (s.takeWhile (· ≠ 0)).length

/-! ## The device and its sector cache -/

/-- The medium as `rm_xipbase` addresses it (or as `romfs_hwread` reads its sectors), and
`rm_hwsectorsize`, a power of two. -/
structure Device where
  medium : List UInt8
  hwsectorsize : Nat
  pow2 : hwsectorsize.isPowerOfTwo

/-- The byte of the medium at an address. -/
def Device.byte (dev : Device) (a : Nat) : UInt8 := dev.medium.getD a 0

/-- `rm_buffer[i]` with sector `c` cached: `SEC_ALIGN` of an offset in it is `c` sectors. -/
def buffer (dev : Device) (c i : Nat) : UInt8 := dev.byte (c * dev.hwsectorsize + i)

/-- `romfs_devcacheread(rm, offset)`: the cached sector afterwards, and `offset & SEC_NDXMASK`.
The sector is read only when it is not the cached one, which the result does not show. -/
def devcacheread (dev : Device) (offset : Nat) : Nat × Nat :=
  (offset / dev.hwsectorsize, offset &&& (dev.hwsectorsize - 1))

def swap32 (value : Nat) : Nat :=
  ((value &&& 0x000000ff) <<< 24) ||| ((value &&& 0x0000ff00) <<< 8) |||
    ((value &&& 0x00ff0000) >>> 8) ||| ((value &&& 0xff000000) >>> 24)

/-- `romfs_devread32(rm, ndx)`: the little-endian load of `rm_buffer[ndx ..]`, swapped. -/
def devread32 (dev : Device) (c ndx : Nat) : Nat :=
  swap32 ((buffer dev c ndx).toNat ||| ((buffer dev c (ndx + 1)).toNat <<< 8) |||
    ((buffer dev c (ndx + 2)).toNat <<< 16) ||| ((buffer dev c (ndx + 3)).toNat <<< 24))

/-- The big-endian word at an address of the medium. -/
def Device.word (dev : Device) (a : Nat) : Nat := devread32 dev 0 a

/-- The offset of the next header of the directory: `next & RFNEXT_OFFSETMASK`. -/
def Device.sibling (dev : Device) (offset : Nat) : Nat :=
  dev.word (offset + romfsFhdrNext) &&& rfnextOffsetmask

/-! ## Headers -/

/-- `romfs_followhardlinks(rm, offset, poffset)`: the first header on the links from `offset`
that is not a hard link, after `ROMF_MAX_LINKS` headers at most, with the sector it leaves
cached. -/
def followhardlinks (dev : Device) : Nat → Nat → Except Nat (Nat × Nat)
  | 0, _ => .error eloop
  | links + 1, offset =>
    let (c, ndx) := devcacheread dev offset
    if !isHardlink (devread32 dev c (ndx + romfsFhdrNext)) then .ok (c, offset)
    else followhardlinks dev links (devread32 dev c (ndx + romfsFhdrInfo))

/-- What `romfs_parsedirentry` returns: `*poffset`, `*pnext`, `*pinfo` and `*psize`. -/
structure DirEntry where
  offset : Nat
  next : Nat
  info : Nat
  size : Nat
  deriving DecidableEq, Repr

/-- `romfs_parsedirentry(rm, offset, ...)`: `ndx` is the index of `offset` in its sector, and
the fields after the links are read at it from the sector `romfs_followhardlinks` left. -/
def parsedirentry (dev : Device) (offset : Nat) : Except Nat DirEntry :=
  let (c, ndx) := devcacheread dev offset
  let save := devread32 dev c (ndx + romfsFhdrNext)
  match followhardlinks dev romfMaxLinks offset with
  | .error e => .error e
  | .ok (c, poffset) =>
    let next := devread32 dev c (ndx + romfsFhdrNext)
    .ok ⟨poffset, (save &&& rfnextOffsetmask) ||| (next &&& rfnextAllmodemask),
      devread32 dev c (ndx + romfsFhdrInfo), devread32 dev c (ndx + romfsFhdrSize)⟩

/-- The loop of `romfs_parsefilename`, reading from `offset`: a 16-byte chunk a step, until a
chunk ends in NUL or `NAME_MAX` bytes are copied. A step that does not end the loop copies 16
bytes, so `NAME_MAX + 1` steps are more than it makes. -/
def parsefilenameFrom (dev : Device) (offset : Nat) : Nat → List UInt8 → Bool → List UInt8
  | 0, pname, _ => pname
  | fuel + 1, pname, done =>
    if pname.length < nameMax && !done then
      let (c, ndx) := devcacheread dev (offset + pname.length)
      let chunk := (List.range 16).map fun i => buffer dev c (ndx + i)
      -- the NUL at the end of the chunk bounds the `strlen`
      let (chunklen, done) :=
        if buffer dev c (ndx + 15) = 0 then (strlen chunk, true) else (16, false)
      let (chunklen, done) :=
        if pname.length + chunklen > nameMax then (nameMax - pname.length, true)
        else (chunklen, done)
      parsefilenameFrom dev offset fuel (pname ++ chunk.take chunklen) done
    else pname

/-- `romfs_parsefilename(rm, offset, pname)`: the name of the header at `offset`. -/
def parsefilename (dev : Device) (offset : Nat) : List UInt8 :=
  parsefilenameFrom dev (offset + romfsFhdrName) (nameMax + 1) [] false

/-- `romfs_dirinfo_s`: `rd_dir.fr_firstoffset`, `rd_dir.fr_curroffset`, `rd_next`, `rd_size`. -/
structure Dirinfo where
  firstoffset : Nat
  curroffset : Nat
  next : Nat
  size : Nat
  deriving DecidableEq, Repr

/-- `romfs_checkentry(rm, offset, entryname, entrylen, dirinfo)`, with `entryname` the
`entrylen` bytes it compares. -/
def checkentry (dev : Device) (offset : Nat) (entryname : List UInt8) (dirinfo : Dirinfo) :
    Except Nat Dirinfo :=
  match parsedirentry dev offset with
  | .error e => .error e
  | .ok e =>
    if isDirectory e.next || isFile e.next then
      let name := parsefilename dev offset
      if name.take entryname.length = entryname && strlen name = entryname.length then
        if isDirectory e.next then
          .ok { dirinfo with firstoffset := e.info, curroffset := e.info, size := 0, next := e.next }
        else .ok { dirinfo with curroffset := offset, size := e.size, next := e.next }
      else .error enoent
    else .error enoent

/-! ## Lookup -/

/-- `romfs_searchdir(rm, entryname, entrylen, dirinfo)` from `offset`, looking at `fuel`
headers at most; `none` is a scan that goes on past them. A failure of `romfs_checkentry`,
`-ELOOP` included, moves on to the next header. -/
def searchdir (dev : Device) (entryname : List UInt8) (dirinfo : Dirinfo) :
    Nat → Nat → Option (Except Nat Dirinfo)
  | 0, _ => none
  | fuel + 1, offset =>
    let (c, ndx) := devcacheread dev offset
    let next := devread32 dev c (ndx + romfsFhdrNext) &&& rfnextOffsetmask
    match checkentry dev offset entryname dirinfo with
    | .ok found => some (.ok found)
    | .error _ =>
      if next ≠ 0 then searchdir dev entryname dirinfo fuel next else some (.error enoent)

/-- The component loop of `romfs_finddirentry` at `entryname`, for `steps` components at most;
each directory is searched with `fuel`. -/
def finddirentryFrom (dev : Device) (fuel : Nat) :
    Nat → List UInt8 → Dirinfo → Option (Except Nat Dirinfo)
  | 0, _, _ => some (.error error)
  | steps + 1, entryname, dirinfo =>
    let entryname := entryname.dropWhile (· = slash)
    -- `strchr(entryname, '/')`: the empty list for NULL
    let terminator := entryname.dropWhile (· ≠ slash)
    let entrylen := min (entryname.takeWhile (· ≠ slash)).length nameMax
    match searchdir dev (entryname.take entrylen) dirinfo fuel dirinfo.firstoffset with
    | none => none
    | some (.error e) => some (.error e)
    | some (.ok dirinfo) =>
      if terminator = [] then some (.ok dirinfo)
      else if !isDirectory dirinfo.next then some (.error enotdir)
      else finddirentryFrom dev fuel steps terminator dirinfo

/-- A mounted volume: the device, `rm_rootoffset` and `rm_volsize`. -/
structure Mount extends Device where
  rootoffset : Nat
  volsize : Nat

/-- `romfs_fsconfigure(rm)`: check the magic of the volume header and take the volume size
and the first header of the root directory, after the volume name. -/
def fsconfigure (dev : Device) : Except Nat Mount :=
  let (c, _) := devcacheread dev 0
  if (List.range 8).map (buffer dev c) ≠ romfsVhdrMagic then .error einval
  else
    let name := dev.medium.drop (c * dev.hwsectorsize + romfsVhdrVolname)
    .ok { dev with
      volsize := devread32 dev c romfsVhdrSize
      rootoffset := romfsAlignup (romfsVhdrVolname + strlen name + 1) }

/-- What `romfs_finddirentry` starts from: the root directory. -/
def Mount.root (m : Mount) : Dirinfo := ⟨m.rootoffset, m.rootoffset, rfnextDirectory, 0⟩

/-- `romfs_finddirentry(rm, dirinfo, path)`; the empty path stands for NULL as well. -/
def finddirentry (m : Mount) (fuel : Nat) (path : List UInt8) : Option (Except Nat Dirinfo) :=
  if path = [] then some (.ok m.root)
  else finddirentryFrom m.toDevice fuel (path.length + 1) path m.root

/-- The loop of `romfs_datastart` from `offset`: a 16-byte chunk a step, for `fuel` steps. -/
def datastartFrom (m : Mount) : Nat → Nat → Option (Except Nat Nat)
  | 0, _ => none
  | fuel + 1, offset =>
    let (c, ndx) := devcacheread m.toDevice offset
    if offset + 16 ≥ m.volsize then some (.error eio)
    else if buffer m.toDevice c (ndx + 15) = 0 then some (.ok (offset + 16))
    else datastartFrom m fuel (offset + 16)

/-- `romfs_datastart(rm, offset, start)`: the offset of the data after the name of the header
the links from `offset` lead to. -/
def datastart (m : Mount) (fuel offset : Nat) : Option (Except Nat Nat) :=
  match followhardlinks m.toDevice romfMaxLinks offset with
  | .error e => some (.error e)
  | .ok (_, offset) => datastartFrom m fuel (offset + romfsFhdrName)

/-! ## Reads through the cache -/

section Reads

variable (dev : Device)

theorem devcacheread_address (offset : Nat) :
    offset / dev.hwsectorsize * dev.hwsectorsize + (offset &&& (dev.hwsectorsize - 1)) = offset := by
  obtain ⟨k, size⟩ := dev.pow2
  rw [size, Nat.and_two_pow_sub_one_eq_mod]
  exact Nat.div_add_mod' offset (2 ^ k)

theorem devread32_eq_word (c ndx : Nat) :
    devread32 dev c ndx = dev.word (c * dev.hwsectorsize + ndx) := by
  simp only [Device.word, devread32, buffer, Nat.zero_mul, Nat.zero_add, Nat.add_assoc]

@[simp] theorem devread32_sector (offset k : Nat) :
    devread32 dev (offset / dev.hwsectorsize) ((offset &&& (dev.hwsectorsize - 1)) + k) =
      dev.word (offset + k) := by
  rw [devread32_eq_word, ← Nat.add_assoc, devcacheread_address]

@[simp] theorem buffer_sector (offset k : Nat) :
    buffer dev (offset / dev.hwsectorsize) ((offset &&& (dev.hwsectorsize - 1)) + k) =
      dev.byte (offset + k) := by
  rw [buffer, ← Nat.add_assoc, devcacheread_address]

@[simp] theorem isMode_pnext (save next mode : Nat) :
    isMode ((save &&& rfnextOffsetmask) ||| (next &&& rfnextAllmodemask)) mode = isMode next mode := by
  have bits : ((save &&& rfnextOffsetmask) ||| (next &&& rfnextAllmodemask)) &&& rfnextModemask =
      next &&& rfnextModemask := by
    apply Nat.eq_of_testBit_eq
    intro i
    simp only [Nat.testBit_and, Nat.testBit_or]
    by_cases low : i < 3
    · -- the three mode bits: clear in the offset mask, set in the two mode masks
      obtain rfl | rfl | rfl : i = 0 ∨ i = 1 ∨ i = 2 := by omega
      all_goals
        generalize save.testBit _ = a
        generalize next.testBit _ = b
        revert a b
        decide
    · have high : rfnextModemask.testBit i = false :=
        Nat.testBit_lt_two_pow (lt_of_lt_of_le (by decide : rfnextModemask < 2 ^ 3)
          (Nat.pow_le_pow_right (by decide) (by omega)))
      simp [high]
  simp only [isMode, bits]

end Reads

/-! ## Directory scans -/

/-- The answer of `romfs_searchdir` at a header: the match `romfs_checkentry` finds there. -/
def matchAt (dev : Device) (entryname : List UInt8) (dirinfo : Dirinfo) (offset : Nat) :
    Option (Except Nat Dirinfo) :=
  match checkentry dev offset entryname dirinfo with
  | .ok found => some (.ok found)
  | .error _ => none

/-- The headers of a directory from `offset` to `last`, none of them the last of the chain. -/
def Siblings (dev : Device) : Nat → List Nat → Nat → Prop :=
  ChainScan.Path dev.sibling (fun offset => dev.sibling offset == 0)

section Scans

variable {dev : Device} {entryname : List UInt8} {dirinfo : Dirinfo}

theorem searchdir_eq_scan (fuel offset : Nat) :
    searchdir dev entryname dirinfo fuel offset =
      ChainScan.scan dev.sibling (fun offset => dev.sibling offset == 0)
        (matchAt dev entryname dirinfo) (.error enoent) fuel offset := by
  induction fuel generalizing offset with
  | zero => rfl
  | succ fuel ih =>
    simp only [searchdir, devcacheread, devread32_sector, ChainScan.scan, matchAt]
    cases checkentry dev offset entryname dirinfo with
    | ok found => rfl
    | error e =>
      by_cases stop : dev.sibling offset = 0
      · simp [Device.sibling] at stop
        simp [Device.sibling, stop]
      · simp [Device.sibling] at stop
        simp [Device.sibling, stop, ih]

theorem searchdir_chain {offset last : Nat} {offsets : List Nat}
    (chain : Siblings dev offset offsets last) (stop : dev.sibling last = 0) {fuel : Nat}
    (enough : offsets.length < fuel) :
    searchdir dev entryname dirinfo fuel offset =
      some (((offsets ++ [last]).findSome? (matchAt dev entryname dirinfo)).getD (.error enoent)) := by
  rw [searchdir_eq_scan]
  exact ChainScan.scan_chain chain (by simpa using stop) enough

theorem searchdir_cycle {offset : Nat} {offsets : List Nat} (cycle : Siblings dev offset offsets offset)
    (nonempty : offsets ≠ []) (misses : ∀ o ∈ offsets, ∃ e, checkentry dev o entryname dirinfo = .error e)
    (fuel : Nat) : searchdir dev entryname dirinfo fuel offset = none := by
  rw [searchdir_eq_scan]
  apply ChainScan.scan_cycle cycle nonempty
  intro o mem
  obtain ⟨e, miss⟩ := misses o mem
  simp [matchAt, miss]

end Scans

theorem finddirentry_component (m : Mount) (fuel : Nat) {path : List UInt8} (nonempty : path ≠ [])
    (noSlash : slash ∉ path) :
    finddirentry m fuel path = searchdir m.toDevice (path.take nameMax) m.root fuel m.rootoffset := by
  have kept : path.dropWhile (· = slash) = path := by
    obtain ⟨b, rest, rfl⟩ := List.exists_cons_of_ne_nil nonempty
    have : b ≠ slash := fun same => noSlash (same ▸ List.mem_cons_self)
    simp [this]
  have whole : path.takeWhile (· ≠ slash) = path :=
    List.takeWhile_eq_self_iff.mpr fun b mem => decide_eq_true fun same => noSlash (same ▸ mem)
  have noTerminator : path.dropWhile (· ≠ slash) = [] :=
    List.dropWhile_eq_nil_iff.mpr fun b mem => decide_eq_true fun same => noSlash (same ▸ mem)
  have shortened : path.take (min path.length nameMax) = path.take nameMax := by
    rw [← List.take_take, List.take_of_length_le (List.length_take_le' _ _)]
  rw [finddirentry, if_neg nonempty, finddirentryFrom]
  simp only [kept, whole, noTerminator, Mount.root, shortened, if_true]
  cases searchdir m.toDevice (path.take nameMax) ⟨m.rootoffset, m.rootoffset, rfnextDirectory, 0⟩
    fuel m.rootoffset with
  | none => rfl
  | some result => cases result <;> rfl

/-! ## File data -/

/-! ## Two images -/

def be32 (w : Nat) : List UInt8 :=
  [(w / 2 ^ 24 % 256).toUInt8, (w / 2 ^ 16 % 256).toUInt8, (w / 2 ^ 8 % 256).toUInt8,
    (w % 256).toUInt8]

/-- A file header with a zero checksum and a name shorter than 16 bytes. -/
def fileHeader (next info size : Nat) (name : List UInt8) : List UInt8 :=
  be32 next ++ be32 info ++ be32 size ++ be32 0 ++ name ++ List.replicate (16 - name.length) 0

/-- A volume header with an empty volume name, so that the root directory starts at 32. -/
def volumeHeader (size : Nat) : List UInt8 :=
  romfsVhdrMagic ++ be32 size ++ be32 0 ++ List.replicate 16 0

/-- A root directory of a file `f` at 32 and, last, a hard link `l` to it at 64. -/
def linkDevice : Device :=
  ⟨volumeHeader 96 ++ fileHeader (64 ||| rfnextFile) 0 0 [102] ++
    fileHeader rfnextHardlink 32 0 [108], 512, ⟨9, rfl⟩⟩

def linkMount : Mount := ⟨linkDevice, 32, 96⟩

/-- A root directory of one file `f` at 32, whose next header is itself. -/
def cycleDevice : Device :=
  ⟨volumeHeader 64 ++ fileHeader (32 ||| rfnextFile) 0 0 [102], 512, ⟨9, rfl⟩⟩

def cycleMount : Mount := ⟨cycleDevice, 32, 64⟩

theorem finddirentry_fails_on_hardlink_and_cycle :
    (fsconfigure linkDevice = .ok linkMount ∧
      isFile (linkDevice.word (32 + romfsFhdrNext)) = true ∧
      isHardlink (linkDevice.word (64 + romfsFhdrNext)) = true ∧
      linkDevice.word (64 + romfsFhdrInfo) = 32 ∧ parsefilename linkDevice 64 = [108] ∧
      ∀ fuel, 2 ≤ fuel → finddirentry linkMount fuel [108] = some (.error enoent)) ∧
    (fsconfigure cycleDevice = .ok cycleMount ∧ cycleDevice.sibling 32 = 32 ∧
      ∀ fuel, finddirentry cycleMount fuel [103] = none) := by
  refine ⟨⟨rfl, by decide, by decide, by decide, by decide, ?_⟩, ⟨rfl, by decide, ?_⟩⟩
  · -- the chain of the root is `f`, then `l`; neither matches `l`
    intro fuel enough
    rw [finddirentry_component linkMount fuel (by decide) (by decide)]
    have next : linkDevice.sibling 32 = 64 := by decide
    have chain : Siblings linkDevice 32 [32] 64 :=
      ChainScan.Path.cons (by decide) (by rw [next]; exact ChainScan.Path.nil 64)
    show searchdir linkDevice [108] linkMount.root fuel 32 = _
    rw [searchdir_chain chain (by decide) (show [32].length < fuel by simp; omega)]
    decide
  · -- the chain of the root is `f` again and again
    intro fuel
    rw [finddirentry_component cycleMount fuel (by decide) (by decide)]
    have next : cycleDevice.sibling 32 = 32 := by decide
    have cycle : Siblings cycleDevice 32 [32] 32 :=
      ChainScan.Path.cons (by decide) (by rw [next]; exact ChainScan.Path.nil 32)
    show searchdir cycleDevice [103] cycleMount.root fuel 32 = none
    apply searchdir_cycle cycle (by simp)
    intro o mem
    rw [List.mem_singleton.mp mem]
    exact ⟨enoent, by decide⟩

end TinyAra.Fs.Romfs
