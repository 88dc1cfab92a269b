/-
# Libc.Stdio.Stream -- the buffer of a `FILE`

With `CONFIG_STDIO_BUFFER_SIZE > 0` a stream has one buffer, used either for read-ahead or
for write-behind: `fs_bufread` marks the end of the read-ahead and `fs_bufpos` the next byte,
so the buffer holds read data when `fs_bufread` is past its start, and write data from its
start up to `fs_bufpos` otherwise. With `CONFIG_NUNGET_CHARS > 0` the stream also keeps the
characters given back by `ungetc`.

* `lib_fread` (lib_libfread.c) returns the ungotten characters first, flushes the write data,
  and then copies the read-ahead and reads the file, into the buffer or, for more than the
  buffer holds, into the caller's memory;
* `lib_fwrite` (lib_libfwrite.c) discards the read-ahead with `lib_rdflush` and copies into the
  buffer, flushing it with `lib_fflush` whenever it is full;
* `lib_rdflush` (lib_rdflush.c), when the buffer holds read data, seeks the descriptor back
  over the unread read-ahead and the ungotten characters and forgets both;
* `lib_fflush` (lib_libfflush.c) writes the write data out, all of it when forced, and moves
  what a partial write left to the start of the buffer; `fseek` flushes both ways and forgets
  the ungotten characters.

The file is a regular file that nothing else touches; its `read` and `write` may move fewer
bytes than asked, at least one (`limit` bounds each transfer). The reference model
(`RefStream`) is the file with a position and a stack of ungotten characters.

* `ungetc_write_misplaced`: after a read that went straight to the caller's memory, the buffer
  holds no read-ahead, so `lib_rdflush` does nothing when a write follows an `ungetc`: the
  descriptor still stands past the ungotten character, which the write neither discards nor
  accounts for, and the bytes land one place too far.
-/
import TinyAra.Lib.Memory

namespace TinyAra.Libc.Stdio.Stream

set_option autoImplicit false

def ok : Int := 0
def error : Int := -1
def eof : Int := -1

/-- The regular file behind `fs_fd`: its bytes, its length, and the descriptor's offset. -/
structure OpenFile where
  data : Nat → UInt8
  size : Nat
  off : Nat

/-- `read(fd, buf, n)`: the bytes from the offset, as many as asked for, as the file still holds,
and as the file system moves in one call (`limit`, at least one). -/
def fdRead (f : OpenFile) (n limit : Nat) : OpenFile × List UInt8 :=
  let k := min n (min (max limit 1) (f.size - f.off))
  ({ f with off := f.off + k }, Memory.read f.data f.off k)

/-- `write(fd, buf, n)` of `bytes`: at least one of them goes out at the offset. -/
def fdWrite (f : OpenFile) (bytes : List UInt8) (limit : Nat) : OpenFile × Nat :=
  let k := min bytes.length (max limit 1)
  ({ data := Memory.write f.data f.off (bytes.take k), size := max f.size (f.off + k),
     off := f.off + k }, k)

/-- The `whence` of `lseek` and `fseek`. -/
inductive Whence where
  | set
  | cur

/-- `lseek(fd, offset, whence)`, refused below the start of the file. -/
def fdLseek (f : OpenFile) (offset : Int) (whence : Whence) : Option OpenFile :=
  let base : Int := match whence with
    | .set => 0
    | .cur => f.off
  if base + offset < 0 then none else some { f with off := (base + offset).toNat }

/-- The fields of a `FILE` the buffered calls use: the buffer, with `fs_bufpos` and
`fs_bufread` as offsets from `fs_bufstart`, and the ungotten characters. -/
structure FileStruct where
  fd : OpenFile
  buffer : Nat → UInt8
  bufpos : Nat
  bufread : Nat
  ungotten : Nat → UInt8
  nungotten : Nat

/-- The calls on one stream; `limit` bounds each transfer to or from the file in the call. -/
inductive StdioCall where
  | fread (count limit : Nat)
  | fwrite (src : List UInt8) (limit : Nat)
  | ungetc (c : UInt8)
  | fseek (offset : Int) (whence : Whence) (limit : Nat)
  | fflush (bforce : Bool) (limit : Nat)

/-- What a call returns: `lib_fread` its count and the bytes, the others their value. -/
inductive StdioReply where
  | read (n : Int) (bytes : List UInt8)
  | ret (n : Int)

section Calls

-- `CONFIG_STDIO_BUFFER_SIZE` and `CONFIG_NUNGET_CHARS`
variable (bufsize nunget : Nat)

/-- The `do ... while` loop of `lib_fflush`: write from `src` until the `nbuffer` bytes are out,
or once unless forced; `fuel` bounds the passes, each of which moves a byte at least. -/
def flushLoop (bforce : Bool) (limit : Nat) (buffer : Nat → UInt8) :
    Nat → OpenFile → Nat → Nat → OpenFile × Nat × Nat
  | 0, fd, src, nbuffer => (fd, src, nbuffer)
  | fuel + 1, fd, src, nbuffer =>
    let written := fdWrite fd (Memory.read buffer src nbuffer) limit
    if bforce = true ∧ 0 < nbuffer - written.2 then
      flushLoop bforce limit buffer fuel written.1 (src + written.2) (nbuffer - written.2)
    else (written.1, src + written.2, nbuffer - written.2)

/-- `lib_fflush(stream, bforce)`: the bytes left in the buffer. -/
def libFflush (s : FileStruct) (bforce : Bool) (limit : Nat) : FileStruct × Int :=
  if s.bufpos ≠ 0 then
    -- the buffer holds read data: nothing to write
    if s.bufread ≠ 0 then (s, 0)
    else
      let flushed := flushLoop bforce limit s.buffer s.bufpos s.fd 0 s.bufpos
      -- what a partial write left is moved down to the start of the buffer
      ({ s with fd := flushed.1, buffer := Memory.copy s.buffer 0 flushed.2.1 flushed.2.2,
                bufpos := flushed.2.2 }, flushed.2.2)
  else (s, s.bufpos)

/-- `lib_wrflush` of a stream open for writing: a forced `lib_fflush`. -/
def libWrflush (s : FileStruct) (limit : Nat) : FileStruct × Int :=
  libFflush s true limit

/-- `lib_rdflush`: when the buffer holds read data, seek back over the unread read-ahead and
the ungotten characters, and forget both. -/
def libRdflush (s : FileStruct) : Option FileStruct :=
  if s.bufread ≠ 0 then
    let rdoffset : Int := s.bufread - s.bufpos + s.nungotten
    let s := { s with bufpos := 0, bufread := 0, nungotten := 0 }
    -- `fseek(stream, -rdoffset, SEEK_CUR)`: its own `lib_rdflush` and `lib_wrflush` find an
    -- empty buffer, and it forgets the ungotten characters again
    (fdLseek s.fd (-rdoffset) .cur).map fun fd => { s with fd := fd }
  else some s

/-- `fseek(stream, offset, whence)`. -/
def fseek (s : FileStruct) (offset : Int) (whence : Whence) (limit : Nat) : FileStruct × Int :=
  match libRdflush s with
  | none => (s, error)
  | some s =>
    let flushed := libWrflush s limit
    if flushed.2 < 0 then (flushed.1, error)
    else
      let s := { flushed.1 with nungotten := 0 }
      match fdLseek s.fd offset whence with
      | some fd => ({ s with fd := fd }, ok)
      | none => (s, error)

/-- `ungetc(c, stream)`. -/
def ungetc (s : FileStruct) (c : UInt8) : FileStruct × Int :=
  if s.nungotten < nunget then
    ({ s with ungotten := Function.update s.ungotten s.nungotten c, nungotten := s.nungotten + 1 },
      c.toNat)
  else (s, eof)

/-- The first loop of `lib_fread`: the ungotten characters, the last one first, while more are
wanted. -/
def popUngotten (ungotten : Nat → UInt8) : Nat → Nat → Nat × Nat × List UInt8
  | n + 1, count + 1 =>
    let rest := popUngotten ungotten n count
    (rest.1, rest.2.1, ungotten n :: rest.2.2)
  | n, count => (n, count, [])

/-- The second loop of `lib_fread`: copy the read-ahead, then read more from the file, into the
buffer or, when more is wanted than the buffer holds, straight into the caller's memory, where a
short read ends the call.  `fuel` bounds the passes, each of which returns a byte at least. -/
def readLoop (limit : Nat) : Nat → FileStruct → Nat → List UInt8 → FileStruct × List UInt8
  | 0, s, _, dest => (s, dest)
  | fuel + 1, s, count, dest =>
    let k := min count (s.bufread - s.bufpos)
    let dest := dest ++ Memory.read s.buffer s.bufpos k
    let s := { s with bufpos := s.bufpos + k }
    if count - k = 0 then (s, dest)
    else
      -- mark the buffer empty
      let s := { s with bufpos := 0, bufread := 0 }
      if count - k > bufsize then
        -- a short read, or a full one that leaves nothing wanted, ends the call
        let got := fdRead s.fd (count - k) limit
        ({ s with fd := got.1 }, dest ++ got.2)
      else
        let got := fdRead s.fd bufsize limit
        if got.2.length = 0 then ({ s with fd := got.1 }, dest)
        else
          readLoop limit fuel
            { s with fd := got.1, buffer := Memory.write s.buffer 0 got.2, bufread := got.2.length }
            (count - k) dest

/-- `lib_fread(ptr, count, stream)`: the count returned, and the bytes. -/
def libFread (s : FileStruct) (count limit : Nat) : FileStruct × Int × List UInt8 :=
  let popped := popUngotten s.ungotten s.nungotten count
  let flushed := libWrflush { s with nungotten := popped.1 } limit
  if flushed.2 < 0 then (flushed.1, flushed.2, popped.2.2)
  else
    let read := readLoop bufsize limit (popped.2.1 + 1) flushed.1 popped.2.1 popped.2.2
    (read.1, read.2.length, read.2)

/-- The loop of `lib_fwrite`: copy as much as fits into the buffer, and flush it when full;
`fuel` bounds the passes, each of which takes a byte at least. -/
def writeLoop (limit : Nat) : Nat → FileStruct → List UInt8 → FileStruct
  | 0, s, _ => s
  | fuel + 1, s, src =>
    if src = [] then s
    else
      let gulp := min (bufsize - s.bufpos) src.length
      let s := { s with buffer := Memory.write s.buffer s.bufpos (src.take gulp),
                        bufpos := s.bufpos + gulp }
      let s := if s.bufpos ≥ bufsize then (libFflush s false limit).1 else s
      writeLoop limit fuel s (src.drop gulp)

def libFwrite (s : FileStruct) (src : List UInt8) (limit : Nat) : FileStruct × Int :=
  match libRdflush s with
  | none => (s, error)
  | some s => (writeLoop bufsize limit src.length s src, src.length)

def stdioStep (s : FileStruct) : StdioCall → Option (FileStruct × StdioReply)
  | .fread count limit =>
    let out := libFread bufsize s count limit
    some (out.1, .read out.2.1 out.2.2)
  | .fwrite src limit =>
    let out := libFwrite bufsize s src limit
    some (out.1, .ret out.2)
  | .ungetc c =>
    let out := ungetc nunget s c
    some (out.1, .ret out.2)
  | .fseek offset whence limit =>
    let out := fseek s offset whence limit
    some (out.1, .ret out.2)
  | .fflush bforce limit =>
    let out := libFflush s bforce limit
    some (out.1, .ret out.2)

end Calls

/-! ## The reference model -/

/-- A file with a position and the characters given back, the last one first.  `pos` is where
the next byte of the file comes from; the position of the stream is `pos` less the number of
characters given back. -/
structure RefStream where
  data : Nat → UInt8
  size : Nat
  pos : Nat
  stack : List UInt8

/-- A read of `k` bytes: the characters given back first, then the file. -/
def RefStream.read (r : RefStream) (k : Nat) : RefStream :=
  { r with pos := r.pos + (k - r.stack.length), stack := r.stack.drop k }

/-- `ungetc`: one more character given back, the position one back. -/
def RefStream.unget (r : RefStream) (c : UInt8) : RefStream :=
  { r with stack := c :: r.stack }

/-- A write at the position of the stream, after the characters given back are discarded; the
file grows to hold the bytes. -/
def RefStream.write (r : RefStream) (bytes : List UInt8) : RefStream :=
  let p := r.pos - r.stack.length
  { data := Memory.write r.data p bytes,
    size := if bytes = [] then r.size else max r.size (p + bytes.length),
    pos := p + bytes.length, stack := [] }

def RefStream.contents (r : RefStream) : List UInt8 := Memory.read r.data 0 r.size

/-- With a buffer of 2 bytes, over the file "abcd": a read of 3 bytes goes straight to the
caller's memory, `ungetc` gives the 'c' back, and a write of "X" is flushed. The reference
model writes the "X" where the 'c' came from, giving "abXd"; the stream writes it after the 'c',
giving "abcX", and keeps the 'c' to be read again. -/
theorem ungetc_write_misplaced :
    ∃ s₁ s₂ s₃ s₄ : FileStruct,
      libFread 2 ⟨⟨Memory.write (fun _ => 0) 0 [97, 98, 99, 100], 4, 0⟩, fun _ => 0, 0, 0,
          fun _ => 0, 0⟩ 3 8 = (s₁, 3, [97, 98, 99]) ∧
      ungetc 2 s₁ 99 = (s₂, 99) ∧
      libFwrite 2 s₂ [88] 8 = (s₃, 1) ∧
      libFflush s₃ true 8 = (s₄, 0) ∧
      Memory.read s₄.fd.data 0 s₄.fd.size = [97, 98, 99, 88] ∧ s₄.nungotten = 1 ∧
      ((((RefStream.mk (Memory.write (fun _ => 0) 0 [97, 98, 99, 100]) 4 0 []).read 3).unget
          99).write [88]).contents = [97, 98, 88, 100] :=
  ⟨_, _, _, _, rfl, rfl, rfl, rfl, rfl, rfl, rfl⟩

end TinyAra.Libc.Stdio.Stream
