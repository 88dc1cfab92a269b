/-
# Drivers.Pipe -- the ring buffer of a pipe

`pipe_common.c` keeps the bytes of a pipe in a ring of `CONFIG_DEV_PIPE_SIZE` bytes (`size`
here): `d_wrndx` is where the next byte written goes and `d_rdndx` where the next byte read
comes from. The pipe is empty when the two meet, and a write stops one slot short of
`d_rdndx`, so at most `size - 1` bytes are buffered.

* `contents`: the bytes buffered, `count` of them from `d_rdndx` on, where `count` is
  `(d_wrndx - d_rdndx) mod size` (`count_eq_mod`) and never more than `size - 1`;
* `ring`: the same ring as a `Lib.RingBuffer` one, so that one pass of a read or a write is the
  library's take or put (`contents_read`, `contents_write`);
* `readLoop_spec` and `writeLoop_spec`: the copy loops take bytes from the front of `contents`
  and add them at its end, as many as asked for and as fit;
* `pipeStep_moves` and `pipeRun_fifo`: over every run of reads and writes (a blocking call is
  its passes between waits, each a step), the bytes read and the bytes still buffered are, in
  order, the bytes written;
* `pipecommonPoll` counts `size - 1 + d_wrndx - d_rdndx` bytes once the write index has wrapped
  below the read index, one less than are buffered (`pollBytes_of_lt`): a pipe filled across
  the end of the ring reports `POLLOUT`, and one holding a single byte there does not report
  `POLLIN` (`poll_misreports_wrapped_pipe`).
-/
import TinyAra.Lib.Machine
import TinyAra.Lib.RingBuffer
import Mathlib.Data.List.Basic

namespace TinyAra.Drivers.Pipe

open Machine

set_option autoImplicit false

/-- The fields of `struct pipe_dev_s` the calls read and write: the ring `d_buffer`, its two
indices, the count of writers and which of the poll slots `d_fds` are taken. -/
structure PipeDev where
  buffer : Nat → UInt8
  wrndx : Nat
  rdndx : Nat
  nwriters : Nat
  fds : Nat → Bool

def eagain : Int := 11
def ebusy : Int := 16

/-- `POLLIN`, `POLLOUT` and `CONFIG_DEV_PIPE_NPOLLWAITERS`. -/
def pollin : Nat := 1
def pollout : Nat := 2
def npollwaiters : Nat := 2

section Ring

variable (size : Nat)

/-- The index after `i`: `if (++i >= CONFIG_DEV_PIPE_SIZE) i = 0`, as both loops step. -/
def next (i : Nat) : Nat := if i + 1 ≥ size then 0 else i + 1

/-- The copy loop of `pipecommon_read`: up to `n` bytes, while the pipe is not empty. -/
def readLoop (dev : PipeDev) : Nat → List UInt8 × PipeDev
  | 0 => ([], dev)
  | n + 1 =>
    if dev.wrndx = dev.rdndx then ([], dev)
    else
      let (bytes, dev') := readLoop { dev with rdndx := next size dev.rdndx } n
      (dev.buffer dev.rdndx :: bytes, dev')

/-- `pipecommon_read(filep, buffer, len)`: what it returns and the bytes it copies out, or
`none` while a blocking read of an empty pipe with writers waits. The semaphores, the wake-up
of writers and the poll notification do not change the ring. -/
def pipecommonRead (dev : PipeDev) (len : Nat) (nonblock : Bool) :
    Option (PipeDev × Int × List UInt8) :=
  if len = 0 then some (dev, 0, [])
  else if dev.wrndx = dev.rdndx then
    if nonblock then some (dev, -eagain, [])
    -- `d_nwriters <= 0` on a `uint8_t`: end of file
    else if dev.nwriters = 0 then some (dev, 0, [])
    else none
  else
    let (bytes, dev') := readLoop size dev len
    some (dev', bytes.length, bytes)

/-- The loop of `pipecommon_write` up to the first time the ring is full: a byte goes in while
the slot after `d_wrndx` is not `d_rdndx`; the bytes still to write. -/
def writeLoop (dev : PipeDev) : List UInt8 → PipeDev × List UInt8
  | [] => (dev, [])
  | b :: rest =>
    let nxtwrndx := next size dev.wrndx
    if nxtwrndx ≠ dev.rdndx then
      writeLoop { dev with buffer := Function.update dev.buffer dev.wrndx b, wrndx := nxtwrndx }
        rest
    else (dev, b :: rest)

/-- `pipecommon_write(filep, buffer, len)` up to its first wait: it returns `len` once every
byte is in; when the ring fills first, a non-blocking call returns the count written (`-EAGAIN`
for none) and a blocking one waits (`none`), to write the rest when it runs again. -/
def pipecommonWrite (dev : PipeDev) (buffer : List UInt8) (nonblock : Bool) :
    PipeDev × Option Int :=
  if buffer.length = 0 then (dev, some 0)
  else
    let (dev', rest) := writeLoop size dev buffer
    let nwritten : Int := buffer.length - rest.length
    if rest = [] then (dev', some buffer.length)
    else if nonblock then (dev', some (if nwritten = 0 then -eagain else nwritten))
    else (dev', none)

/-- The bytes `pipecommon_poll` counts: `d_wrndx - d_rdndx`, or `(size - 1) + d_wrndx - d_rdndx`
once the write index is below the read one (a `pipe_ndx_t`, which holds it). -/
def pollBytes (dev : PipeDev) : Nat :=
  if dev.wrndx ≥ dev.rdndx then dev.wrndx - dev.rdndx else (size - 1) + dev.wrndx - dev.rdndx

/-- `pipecommon_poll(filep, fds, true)`: the first free slot of `d_fds` is taken (`-EBUSY` when
none is), and `pipecommon_pollnotify` reports at once those of the caller's `events` that hold:
`POLLOUT` while fewer than `size - 1` bytes are counted, `POLLIN` while some are. -/
def pipecommonPoll (dev : PipeDev) (events : Nat) : Int × Nat × PipeDev :=
  match (List.range npollwaiters).find? fun i => !dev.fds i with
  | none => (-ebusy, 0, dev)
  | some i =>
    let dev := { dev with fds := Function.update dev.fds i true }
    let nbytes := pollBytes size dev
    let eventset := (if nbytes < size - 1 then pollout else 0) ||| (if nbytes > 0 then pollin else 0)
    (0, events &&& eventset, dev)

/-- A call on the pipe. -/
inductive PipeCall
  | read (len : Nat) (nonblock : Bool)
  | write (buffer : List UInt8) (nonblock : Bool)

/-- What a call answers: what it returns (`none` for a blocking write that waits with bytes
left), and the bytes it took out of the ring or put into it. -/
structure PipeAnswer where
  ret : Option Int
  moved : List UInt8

/-- One call, up to its return or its first wait. -/
def pipeStep (dev : PipeDev) : PipeCall → Option (PipeDev × PipeAnswer)
  | .read len nonblock =>
    (pipecommonRead size dev len nonblock).map fun (dev', ret, bytes) => (dev', ⟨some ret, bytes⟩)
  | .write buffer nonblock =>
    let (dev', ret) := pipecommonWrite size dev buffer nonblock
    some (dev', ⟨ret, buffer.take (buffer.length - (writeLoop size dev buffer).2.length)⟩)

/-- The bytes a call took out of the pipe, and those it put in. -/
def PipeCall.taken : PipeCall → PipeAnswer → List UInt8
  | .read .., a => a.moved
  | .write .., _ => []

def PipeCall.given : PipeCall → PipeAnswer → List UInt8
  | .read .., _ => []
  | .write .., a => a.moved

/-! ## The bytes buffered -/

/-- The slot `k` places after `i`, going round the ring at most once. -/
def slot (i k : Nat) : Nat := if i + k < size then i + k else i + k - size

/-- How many bytes the ring holds: the distance from `d_rdndx` on to `d_wrndx`. -/
def count (dev : PipeDev) : Nat :=
  if dev.rdndx ≤ dev.wrndx then dev.wrndx - dev.rdndx else dev.wrndx + size - dev.rdndx

/-- The bytes buffered, oldest first. -/
def contents (dev : PipeDev) : List UInt8 :=
  (List.range (count size dev)).map fun i => dev.buffer (slot size dev.rdndx i)

def Indices (dev : PipeDev) : Prop := dev.wrndx < size ∧ dev.rdndx < size

/-- The ring of the pipe as a `RingBuffer.Buf`: `d_wrndx` is its head and `d_rdndx` its tail. -/
def ring (dev : PipeDev) : RingBuffer.Buf UInt8 := ⟨dev.buffer, dev.wrndx, dev.rdndx, size⟩

/-- The device `pipecommon_open` starts with: `kmm_zalloc` gives zero indices and free slots. -/
def PipeDev.init (buffer : Nat → UInt8) (nwriters : Nat) : PipeDev :=
  ⟨buffer, 0, 0, nwriters, fun _ => false⟩

variable {size}
variable {dev dev' : PipeDev}

theorem valid_ring (indices : Indices size dev) : RingBuffer.Valid (ring size dev) :=
  ⟨indices.1, indices.2⟩

theorem next_lt {i : Nat} (lt : i < size) : next size i < size :=
  RingBuffer.next_lt lt

theorem count_eq_mod (indices : Indices size dev) :
    count size dev = (dev.wrndx + size - dev.rdndx) % size := by
  obtain ⟨wr, rd⟩ := indices
  unfold count
  split
  · rw [show dev.wrndx + size - dev.rdndx = dev.wrndx - dev.rdndx + size by omega, Nat.add_mod_right,
      Nat.mod_eq_of_lt (by omega)]
  · rw [Nat.mod_eq_of_lt (by omega)]

theorem count_lt {dev : PipeDev} (indices : Indices size dev) : count size dev < size :=
  RingBuffer.count_lt (valid_ring indices)

@[simp] theorem length_contents (dev : PipeDev) : (contents size dev).length = count size dev := by
  simp [contents]

/-- A read takes the byte at `d_rdndx` off the front: a take of the library's ring. -/
theorem contents_read (indices : Indices size dev) (full : dev.wrndx ≠ dev.rdndx) :
    contents size dev =
      dev.buffer dev.rdndx :: contents size { dev with rdndx := next size dev.rdndx } := by
  have taken : RingBuffer.take (ring size dev) =
      some (dev.buffer dev.rdndx, ring size { dev with rdndx := next size dev.rdndx }) := by
    unfold RingBuffer.take ring
    dsimp only
    rw [if_neg full]
    rfl
  exact RingBuffer.contents_take (valid_ring indices) taken

/-- A write adds its byte at the end: a put of the library's ring. -/
theorem contents_write (indices : Indices size dev) (b : UInt8)
    (room : next size dev.wrndx ≠ dev.rdndx) :
    contents size
        { dev with buffer := Function.update dev.buffer dev.wrndx b, wrndx := next size dev.wrndx } =
      contents size dev ++ [b] := by
  have stored : RingBuffer.put (ring size dev) b = some (ring size
      { dev with buffer := Function.update dev.buffer dev.wrndx b, wrndx := next size dev.wrndx }) := by
    unfold RingBuffer.put ring
    dsimp only
    rw [if_neg (show RingBuffer.next size dev.wrndx ≠ dev.rdndx from room)]
    rfl
  exact RingBuffer.contents_put (valid_ring indices) stored

/-! ## The copy loops -/

theorem readLoop_spec : ∀ (n : Nat) {dev : PipeDev}, Indices size dev →
    (readLoop size dev n).1 = (contents size dev).take n ∧
      contents size (readLoop size dev n).2 = (contents size dev).drop n ∧
      Indices size (readLoop size dev n).2 ∧
      (readLoop size dev n).2.rdndx = slot size dev.rdndx (min n (count size dev)) ∧
      (readLoop size dev n).2 = { dev with rdndx := (readLoop size dev n).2.rdndx }
  | 0, dev, indices => by
      refine ⟨by simp [readLoop], by simp [readLoop], indices, ?_, rfl⟩
      simp only [readLoop, Nat.zero_min, slot]
      rw [if_pos (by have := indices.2; omega), Nat.add_zero]
  | n + 1, dev, indices => by
      by_cases empty : dev.wrndx = dev.rdndx
      · have none : count size dev = 0 := by simp [count, empty]
        have nothing : contents size dev = [] := by simp [contents, none]
        have stop : readLoop size dev (n + 1) = ([], dev) := by rw [readLoop, if_pos empty]
        rw [stop, nothing, none]
        refine ⟨rfl, rfl, indices, ?_, rfl⟩
        dsimp only
        rw [Nat.min_zero, slot, if_pos (by have := indices.2; omega), Nat.add_zero]
      · have moved : Indices size { dev with rdndx := next size dev.rdndx } :=
          ⟨indices.1, next_lt indices.2⟩
        obtain ⟨bytes, rest, inside, index, same⟩ := readLoop_spec n moved
        have step : readLoop size dev (n + 1) =
            (dev.buffer dev.rdndx :: (readLoop size { dev with rdndx := next size dev.rdndx } n).1,
              (readLoop size { dev with rdndx := next size dev.rdndx } n).2) := by
          rw [readLoop, if_neg empty]
        have less := congrArg List.length (contents_read indices empty)
        simp only [length_contents, List.length_cons] at less
        rw [step]
        refine ⟨?_, ?_, inside, ?_, by rw [same]⟩
        · rw [bytes, contents_read indices empty, List.take_succ_cons]
        · rw [rest, contents_read indices empty, List.drop_succ_cons]
        · -- one slot on, and the rest from there
          rw [index]
          dsimp only
          generalize count size { dev with rdndx := next size dev.rdndx } = c at less
          have := indices.2
          have := count_lt indices
          unfold slot next
          split_ifs <;> omega

theorem writeLoop_spec : ∀ (bytes : List UInt8) {dev : PipeDev}, Indices size dev →
    ∃ accepted, bytes = accepted ++ (writeLoop size dev bytes).2 ∧
      contents size (writeLoop size dev bytes).1 = contents size dev ++ accepted ∧
      ((writeLoop size dev bytes).2 ≠ [] → count size (writeLoop size dev bytes).1 = size - 1) ∧
      Indices size (writeLoop size dev bytes).1 ∧
      (writeLoop size dev bytes).1.wrndx = slot size dev.wrndx accepted.length ∧
      (writeLoop size dev bytes).1 =
        { dev with buffer := (writeLoop size dev bytes).1.buffer, wrndx := (writeLoop size dev bytes).1.wrndx }
  | [], dev, indices => by
      refine ⟨[], rfl, by simp [writeLoop], by simp [writeLoop], indices, ?_, rfl⟩
      simp only [writeLoop, List.length_nil, slot]
      rw [if_pos (by have := indices.1; omega), Nat.add_zero]
  | b :: rest, dev, indices => by
      by_cases room : next size dev.wrndx ≠ dev.rdndx
      · have moved : Indices size
            { dev with buffer := Function.update dev.buffer dev.wrndx b, wrndx := next size dev.wrndx } :=
          ⟨next_lt indices.1, indices.2⟩
        obtain ⟨accepted, split, added, full, inside, index, same⟩ := writeLoop_spec rest moved
        simp only [writeLoop, if_pos room] at split added full inside index same ⊢
        refine ⟨b :: accepted, by rw [List.cons_append, ← split], ?_, full, inside, ?_, ?_⟩
        · rw [added, contents_write indices b room, List.append_assoc, List.singleton_append]
        · -- fewer bytes than the ring has slots went in
          have lengths := congrArg List.length added
          simp only [length_contents, List.length_append] at lengths
          have := count_lt inside
          rw [index, List.length_cons]
          have := indices.1
          unfold slot next
          split_ifs <;> omega
        · rw [same]
      · have full : count size dev = size - 1 := by
          obtain ⟨wr, rd⟩ := indices
          unfold count
          unfold next at room
          split_ifs at room ⊢ <;> omega
        have stop : writeLoop size dev (b :: rest) = (dev, b :: rest) := by
          simp only [writeLoop, if_neg room]
        rw [stop]
        refine ⟨[], rfl, by simp, fun _ => full, indices, ?_, rfl⟩
        dsimp only
        rw [List.length_nil, slot, if_pos (by have := indices.1; omega), Nat.add_zero]

/-! ## Runs of calls -/

theorem pipecommonWrite_fst (dev : PipeDev) (buffer : List UInt8) (nonblock : Bool) :
    (pipecommonWrite size dev buffer nonblock).1 = (writeLoop size dev buffer).1 := by
  unfold pipecommonWrite
  by_cases zero : buffer.length = 0
  · rw [if_pos zero, List.length_eq_zero_iff.mp zero]
    rfl
  · rw [if_neg zero]
    generalize writeLoop size dev buffer = looped
    obtain ⟨dev', rest⟩ := looped
    dsimp only
    split_ifs <;> rfl

theorem pipeStep_moves {call : PipeCall} {answer : PipeAnswer}
    (indices : Indices size dev) (stepped : pipeStep size dev call = some (dev', answer)) :
    Indices size dev' ∧
      call.taken answer ++ contents size dev' = contents size dev ++ call.given answer := by
  cases call with
  | read len nonblock =>
    simp only [pipeStep, Option.map_eq_some_iff] at stepped
    obtain ⟨⟨dev₁, ret, bytes⟩, read, same⟩ := stepped
    simp only [Prod.mk.injEq] at same
    obtain ⟨rfl, rfl⟩ := same
    simp only [PipeCall.taken, PipeCall.given, List.append_nil]
    unfold pipecommonRead at read
    split_ifs at read with zero empty
    · -- nothing asked, or an empty pipe: nothing moves
      cases read
      exact ⟨indices, rfl⟩
    · cases read
      exact ⟨indices, rfl⟩
    · cases read
      exact ⟨indices, rfl⟩
    · obtain ⟨bytes', rest, inside, -, -⟩ := readLoop_spec len indices
      simp only [Option.some.injEq, Prod.mk.injEq] at read
      obtain ⟨rfl, -, rfl⟩ := read
      rw [bytes', rest]
      exact ⟨inside, List.take_append_drop len _⟩
  | write buffer nonblock =>
    simp only [pipeStep, Option.some.injEq, Prod.mk.injEq] at stepped
    obtain ⟨rfl, rfl⟩ := stepped
    obtain ⟨accepted, split, added, -, inside, -, -⟩ := writeLoop_spec buffer indices
    have front : buffer.take (buffer.length - (writeLoop size dev buffer).2.length) = accepted := by
      have lengths := congrArg List.length split
      rw [List.length_append] at lengths
      rw [show buffer.length - (writeLoop size dev buffer).2.length = accepted.length by omega]
      calc buffer.take accepted.length
          = (accepted ++ (writeLoop size dev buffer).2).take accepted.length := by rw [← split]
        _ = accepted := by simp
    simp only [PipeCall.taken, PipeCall.given, pipecommonWrite_fst, front, List.nil_append]
    exact ⟨inside, added⟩

theorem pipeRun_fifo {calls : List PipeCall} {answers : List PipeAnswer}
    (indices : Indices size dev) (ran : runOut (pipeStep size) dev calls = some (dev', answers)) :
    ((calls.zip answers).flatMap fun p => p.1.taken p.2) ++ contents size dev' =
        contents size dev ++ (calls.zip answers).flatMap (fun p => p.1.given p.2) ∧
      (contents size dev').length = (dev'.wrndx + size - dev'.rdndx) % size ∧
      (contents size dev').length ≤ size - 1 := by
  have keep : ∀ s e s' o, Indices size s → pipeStep size s e = some (s', o) → Indices size s' :=
    fun _ _ _ _ indices stepped => (pipeStep_moves indices stepped).1
  have final := runOut_invariant (Indices size) (fun _ => True) (fun s e s' o _ => keep s e s' o)
    calls dev dev' answers (fun _ _ => trivial) indices ran
  refine ⟨runOut_queue (contents size) PipeCall.given PipeCall.taken (Indices size) keep
    (fun _ _ _ _ indices stepped => (pipeStep_moves indices stepped).2) calls dev dev' answers
    indices ran, by rw [length_contents, count_eq_mod final], ?_⟩
  have := count_lt final
  rw [length_contents]
  omega

/-- From a freshly opened pipe, the bytes read are a prefix of the bytes written. -/
theorem pipeRun_reads_prefix {buffer : Nat → UInt8} {nwriters : Nat} (positive : 0 < size)
    {calls : List PipeCall} {answers : List PipeAnswer}
    (ran : runOut (pipeStep size) (PipeDev.init buffer nwriters) calls = some (dev', answers)) :
    ((calls.zip answers).flatMap fun p => p.1.taken p.2) <+:
      (calls.zip answers).flatMap fun p => p.1.given p.2 := by
  obtain ⟨fifo, -, -⟩ := pipeRun_fifo ⟨positive, positive⟩ ran
  have empty : contents size (PipeDev.init buffer nwriters) = [] := by
    simp [contents, count, PipeDev.init]
  rw [empty, List.nil_append] at fifo
  exact ⟨_, fifo⟩

theorem pipeRun_reads_prefix_ring :
    ∃ dev' answers, runOut (pipeStep 4) (PipeDev.init (fun _ => 0) 1)
        [.write [1, 2, 3] true, .read 2 true] = some (dev', answers) ∧
      (([PipeCall.write [1, 2, 3] true, .read 2 true].zip answers).flatMap fun p => p.1.taken p.2) <+:
        ([PipeCall.write [1, 2, 3] true, .read 2 true].zip answers).flatMap fun p => p.1.given p.2 :=
  ⟨_, _, rfl, pipeRun_reads_prefix (by decide : 0 < 4) rfl⟩

/-! ## What `pipecommon_poll` counts -/

theorem pollBytes_of_lt {dev : PipeDev} (indices : Indices size dev)
    (lt : dev.wrndx < dev.rdndx) : pollBytes size dev + 1 = count size dev := by
  have := indices.2
  unfold pollBytes count
  split_ifs <;> omega

/-- A write of bytes that fit goes in whole: it returns their count and moves `d_wrndx` past
them. -/
theorem pipeStep_write_fits {dev : PipeDev} (indices : Indices size dev) {bytes : List UInt8}
    (nonempty : bytes ≠ []) (fits : count size dev + bytes.length ≤ size - 1) (nonblock : Bool) :
    ∃ dev', pipeStep size dev (.write bytes nonblock) = some (dev', ⟨some bytes.length, bytes⟩) ∧
      dev'.wrndx = slot size dev.wrndx bytes.length ∧ dev'.rdndx = dev.rdndx ∧
      dev'.fds = dev.fds ∧ count size dev' = count size dev + bytes.length := by
  obtain ⟨accepted, split, added, full, -, index, same⟩ := writeLoop_spec bytes indices
  have lengths := congrArg List.length added
  simp only [length_contents, List.length_append] at lengths
  -- the ring never fills: every byte is accepted
  have all : (writeLoop size dev bytes).2 = [] := by
    by_contra left
    have := full left
    have := congrArg List.length split
    have : (writeLoop size dev bytes).2.length ≠ 0 :=
      fun zero => left (List.eq_nil_of_length_eq_zero zero)
    simp only [List.length_append] at *
    omega
  rw [all, List.append_nil] at split
  rw [← split] at index lengths
  have written : pipecommonWrite size dev bytes nonblock =
      ((writeLoop size dev bytes).1, some (bytes.length : Int)) := by
    unfold pipecommonWrite
    rw [if_neg (fun zero => nonempty (List.eq_nil_of_length_eq_zero zero))]
    cases h : writeLoop size dev bytes
    rw [h] at all
    dsimp only at all ⊢
    rw [if_pos all]
  refine ⟨(writeLoop size dev bytes).1, ?_, index, ?_, ?_, by omega⟩
  · simp only [pipeStep, written, all, List.length_nil, Nat.sub_zero, List.take_length]
  · rw [same]
  · rw [same]

/-- A read of bytes that are there copies them out: it returns their count and moves
`d_rdndx` past them. -/
theorem pipeStep_read_some (indices : Indices size dev) {n : Nat}
    (positive : 0 < n) (within : n ≤ count size dev) (nonblock : Bool) :
    ∃ dev', pipeStep size dev (.read n nonblock) =
        some (dev', ⟨some n, (contents size dev).take n⟩) ∧
      dev'.rdndx = slot size dev.rdndx n ∧ dev'.wrndx = dev.wrndx ∧ dev'.fds = dev.fds ∧
      count size dev' = count size dev - n := by
  obtain ⟨bytes, rest, -, index, same⟩ := readLoop_spec n indices
  have lengths := congrArg List.length rest
  simp only [length_contents, List.length_drop] at lengths
  have nonempty : dev.wrndx ≠ dev.rdndx := by
    intro meet
    have : count size dev = 0 := by simp [count, meet]
    omega
  have read : pipecommonRead size dev n nonblock =
      some ((readLoop size dev n).2, (n : Int), (contents size dev).take n) := by
    unfold pipecommonRead
    rw [if_neg (by omega), if_neg nonempty, ← bytes]
    simp [bytes, within]
  refine ⟨(readLoop size dev n).2, ?_, by rw [index, Nat.min_eq_left within], ?_, ?_, lengths⟩
  · simp only [pipeStep, read, Option.map_some]
  · rw [same]
  · rw [same]

/-- The run that wraps a pipe round the end of its ring: `size - 1` bytes written, `skip` of
them read, and `k` more written. -/
def wrapRun (size skip k : Nat) : List PipeCall :=
  [.write (List.replicate (size - 1) 0) true, .read skip true, .write (List.replicate k 0) true]

/-- `wrapRun size skip k` from a freshly opened pipe leaves `d_rdndx` at `skip` and `d_wrndx`
at `k - 1`, below it, with `size - 1 - skip + k` bytes buffered. -/
theorem wrapRun_spec (buffer : Nat → UInt8) (nwriters : Nat) {skip k : Nat} (two : 2 ≤ size)
    (reads : 1 ≤ skip ∧ skip ≤ size - 1) (writes : 1 ≤ k ∧ k ≤ skip) :
    ∃ dev' answers, runOut (pipeStep size) (PipeDev.init buffer nwriters) (wrapRun size skip k) =
      some (dev', answers) ∧ dev'.rdndx = skip ∧ dev'.wrndx = k - 1 ∧
      count size dev' = size - 1 - skip + k ∧ dev'.fds = fun _ => false := by
  have start : Indices size (PipeDev.init buffer nwriters) :=
    ⟨show 0 < size by omega, show 0 < size by omega⟩
  have empty : count size (PipeDev.init buffer nwriters) = 0 := by simp [count, PipeDev.init]
  -- fill the empty ring up to its last slot
  obtain ⟨dev₁, write₁, wr₁, rd₁, fds₁, count₁⟩ := @pipeStep_write_fits size _ start
    (List.replicate (size - 1) 0) (by simp; omega) (by simp [empty]) true
  rw [empty, Nat.zero_add, List.length_replicate] at count₁
  rw [List.length_replicate] at wr₁
  simp only [PipeDev.init] at wr₁ rd₁ fds₁
  have at₁ : dev₁.wrndx = size - 1 := by rw [wr₁]; unfold slot; split_ifs <;> omega
  have indices₁ : Indices size dev₁ := ⟨by omega, by omega⟩
  -- read `skip` bytes from the front
  obtain ⟨dev₂, read₂, rd₂, wr₂, fds₂, count₂⟩ := pipeStep_read_some indices₁
    (n := skip) (by omega) (by rw [count₁]; omega) true
  have at₂ : dev₂.rdndx = skip := by rw [rd₂, rd₁]; unfold slot; split_ifs <;> omega
  have indices₂ : Indices size dev₂ := ⟨by omega, by omega⟩
  -- write `k` bytes, across the end of the ring
  obtain ⟨dev₃, write₃, wr₃, rd₃, fds₃, count₃⟩ := @pipeStep_write_fits size _ indices₂
    (List.replicate k 0) (by simp; omega)
    (by rw [count₂, count₁, List.length_replicate]; omega) true
  refine ⟨dev₃, ?answers, ?run, by rw [rd₃, at₂], ?_, ?_, by rw [fds₃, fds₂, fds₁]⟩
  case run =>
    simp only [runOut, wrapRun, write₁, Option.bind_some, read₂, write₃, Option.map_some]
    rfl
  · rw [wr₃, wr₂, at₁, List.length_replicate]
    unfold slot
    split_ifs <;> omega
  · rw [count₃, count₂, count₁, List.length_replicate]

theorem pipecommonPoll_free (free : dev.fds = fun _ => false) (events : Nat) :
    (pipecommonPoll size dev events).2.1 = events &&&
      ((if pollBytes size dev < size - 1 then pollout else 0) |||
        (if pollBytes size dev > 0 then pollin else 0)) := by
  unfold pipecommonPoll
  rw [free]
  rfl

/-- `pipecommon_poll` on a pipe wrapped round its ring: filled to `size - 1` bytes by writing
`size - 1`, reading one and writing one, it reports `POLLOUT`, room to write; holding one byte
after writing `size - 1`, reading them and writing one, it does not report `POLLIN`. -/
theorem poll_misreports_wrapped_pipe (two : 2 ≤ size) (buffer : Nat → UInt8) (nwriters : Nat) :
    (∃ dev answers, runOut (pipeStep size) (PipeDev.init buffer nwriters) (wrapRun size 1 1) =
        some (dev, answers) ∧ (contents size dev).length = size - 1 ∧
        (pipecommonPoll size dev (pollin ||| pollout)).2.1 &&& pollout = pollout) ∧
    (∃ dev answers, runOut (pipeStep size) (PipeDev.init buffer nwriters)
        (wrapRun size (size - 1) 1) = some (dev, answers) ∧ (contents size dev).length = 1 ∧
        (pipecommonPoll size dev (pollin ||| pollout)).2.1 &&& pollin = 0) := by
  constructor
  · obtain ⟨dev, answers, ran, rd, wr, held, fds⟩ :=
      @wrapRun_spec size buffer nwriters 1 1 two (by omega) (by omega)
    refine ⟨dev, answers, ran, by rw [length_contents, held]; omega, ?_⟩
    -- one byte is counted short: `size - 2`, so there is room
    have short : pollBytes size dev = size - 2 := by
      have := @pollBytes_of_lt size dev ⟨by omega, by omega⟩ (by omega)
      omega
    rw [pipecommonPoll_free fds, short, if_pos (show size - 2 < size - 1 by omega)]
    split_ifs <;> decide
  · obtain ⟨dev, answers, ran, rd, wr, held, fds⟩ :=
      @wrapRun_spec size buffer nwriters (size - 1) 1 two (by omega) (by omega)
    refine ⟨dev, answers, ran, by rw [length_contents, held]; omega, ?_⟩
    -- the one byte is counted short: none
    have none : pollBytes size dev = 0 := by
      have := @pollBytes_of_lt size dev ⟨by omega, by omega⟩ (by omega)
      omega
    rw [pipecommonPoll_free fds, none, if_pos (show 0 < size - 1 by omega),
      if_neg (Nat.lt_irrefl 0)]
    decide

/-- At the default `CONFIG_DEV_PIPE_SIZE` of 1024 bytes. -/
theorem poll_misreports_default_pipe : 2 ≤ 1024 ∧
    (∃ dev answers, runOut (pipeStep 1024) (PipeDev.init (fun _ => 0) 1) (wrapRun 1024 1 1) =
        some (dev, answers) ∧ (contents 1024 dev).length = 1023 ∧
        (pipecommonPoll 1024 dev (pollin ||| pollout)).2.1 &&& pollout = pollout) ∧
    (∃ dev answers, runOut (pipeStep 1024) (PipeDev.init (fun _ => 0) 1) (wrapRun 1024 1023 1) =
        some (dev, answers) ∧ (contents 1024 dev).length = 1 ∧
        (pipecommonPoll 1024 dev (pollin ||| pollout)).2.1 &&& pollin = 0) :=
  ⟨by decide, @poll_misreports_wrapped_pipe 1024 (by decide) (fun _ => 0) 1⟩

end Ring

end TinyAra.Drivers.Pipe
