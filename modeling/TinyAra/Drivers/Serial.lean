/-
# Drivers.Serial -- the read and write paths of the serial driver

A serial device (serial.c, serialirq.c) has two rings: `xmit`, which `uart_write` fills and
the TX interrupt (`uart_xmitchars`) empties, and `recv`, which the RX interrupt
(`uart_recvchars`) fills and `uart_read` empties.

* `uart_write` disables the TX interrupt and puts the bytes of the caller's buffer into
  `xmit` one by one with `uart_putxmitchar`, which waits for room (with the TX interrupt
  enabled) or fails with `-EAGAIN` under `O_NONBLOCK`, and fails with `-EINTR` when a signal
  ends the wait. Before a newline it puts a '\r', on the console or, under
  `CONFIG_SERIAL_TERMIOS`, as `ONLCR` asks. On an error it returns the number of bytes before
  the failing one, or the error when there are none; under `CONFIG_SERIAL_TERMIOS` an error on
  the '\r' is returned as it is.
* `uart_read` takes bytes from `recv` until it has `buflen` of them, maps '\n' and '\r' as
  `INLCR` and `ICRNL` ask, and returns what it has once the ring is empty, waiting first when it
  has nothing (unless `O_NONBLOCK`).
* the RX interrupt drops a byte that finds `recv` full.

The calls are split into their steps (`SerialEvent`): each `uart_putxmitchar` and each turn of
the read loop is one, and a blocked call waits between steps while the interrupts run.

* `serial_write_read_diverge`: a write that fails on a newline after its '\r' went out returns
  the count of the bytes before it, with the '\r' left in `xmit`; and a '\r' received with
  `IGNCR` set is returned by `uart_read`.
-/
import TinyAra.Lib.RingBuffer
import TinyAra.Lib.Machine

namespace TinyAra.Drivers.Serial

open Machine RingBuffer

set_option autoImplicit false

def ok : Int := 0
def eintr : Int := 4
def eagain : Int := 11

def icrnl : Nat := 2
def igncr : Nat := 8
def inlcr : Nat := 32
def opost : Nat := 1
def onlcr : Nat := 4
def ocrnl : Nat := 8
def onlret : Nat := 32

def cr : UInt8 := 13
def nl : UInt8 := 10

/-- The fields of `uart_dev_t` the read and write paths use; the rings are
`struct uart_buffer_s` without their semaphores. -/
structure UartDev where
  xmit : Buf UInt8
  recv : Buf UInt8
  isconsole : Bool
  tcOflag : Nat
  tcIflag : Nat

/-- Where a task is in `uart_write`. The loop is at byte `pos` of the caller's buffer `src`
(`buffer` is `src.drop pos` and `buflen` is what is left of it); `crFirst` says that the '\r'
inserted before that byte is still to go out. -/
inductive Writer where
  | idle
  | loop (src : List UInt8) (pos : Nat) (crFirst : Bool) (nwritten : Int) (oktoblock : Bool)
  /-- Blocked in `uart_putxmitchar`, waiting for room. -/
  | waiting (src : List UInt8) (pos : Nat) (crFirst : Bool) (nwritten : Int) (oktoblock : Bool)

/-- Where a task is in `uart_read`: `got` is what it has stored into the caller's buffer. -/
inductive Reader where
  | idle
  | loop (buflen : Nat) (got : List UInt8) (nonblock : Bool)
  /-- Blocked, waiting for data. -/
  | waiting (buflen : Nat) (got : List UInt8) (nonblock : Bool)

/-- The device and the two tasks using it. -/
structure SerialState where
  dev : UartDev
  writer : Writer
  reader : Reader

/-- A call, a step of one, or an interrupt. -/
inductive SerialEvent where
  /-- `uart_write(filep, src, len)`, with `O_NONBLOCK` or not. -/
  | write (src : List UInt8) (nonblock : Bool)
  /-- The write loop's next `uart_putxmitchar`, or its end. -/
  | putNext
  /-- The blocked `uart_putxmitchar` wakes, by a signal or because room was made. -/
  | wake (signalled : Bool)
  /-- `uart_xmitchars` sends a byte. -/
  | xmitchar
  /-- `uart_recvchars` receives a byte. -/
  | recvchar (ch : UInt8)
  /-- `uart_read(filep, buffer, buflen)`. -/
  | read (buflen : Nat) (nonblock : Bool)
  /-- A turn of the read loop. -/
  | readNext
  /-- The blocked read wakes. -/
  | readWake (signalled : Bool)

/-- What a step answers. -/
inductive SerialReply where
  /-- `uart_write` returns. -/
  | ret (nwritten : Int)
  /-- `uart_read` returns, with the bytes in the caller's buffer. -/
  | readRet (recvd : Int) (bytes : List UInt8)
  /-- A byte goes into `xmit`. -/
  | queued (ch : UInt8)
  /-- `uart_send` of a byte taken from `xmit`. -/
  | sent (ch : UInt8)
  /-- A byte arrives, and is kept in `recv` or dropped. -/
  | received (ch : UInt8) (kept : Bool)
  /-- The read loop takes a byte from `recv`. -/
  | took (ch : UInt8)
  /-- A call goes to sleep. -/
  | blocked
  | next

section Model

variable (termios : Bool)

/-- Output processing of a byte: the byte that goes out, and whether a '\r' goes out first. -/
def outputByte (dev : UartDev) (ch : UInt8) : UInt8 × Bool :=
  if termios then
    if dev.tcOflag &&& opost ≠ 0 then
      let ch := if ch = cr ∧ dev.tcOflag &&& ocrnl ≠ 0 then nl else ch
      (ch, decide (ch = nl ∧ dev.tcOflag &&& (onlcr ||| onlret) ≠ 0))
    else (ch, false)
  else (ch, dev.isconsole && ch == nl)

def crBefore (dev : UartDev) (src : List UInt8) (pos : Nat) : Bool :=
  match src[pos]? with
  | some ch => (outputByte termios dev ch).2
  | none => false

/-- Input processing of a byte: the byte stored, or `none` when it is discarded. -/
def inputByte (dev : UartDev) (ch : UInt8) : Option UInt8 :=
  if termios ∧ dev.tcIflag &&& (inlcr ||| igncr ||| icrnl) ≠ 0 then
    let ch := if ch = nl ∧ dev.tcIflag &&& inlcr ≠ 0 then cr
      else if ch = cr ∧ dev.tcIflag &&& icrnl ≠ 0 then nl else ch
    -- `(ch == '\r') & (dev->tc_iflag & IGNCR)`: a bitwise and of 0 or 1 with the flag
    if (if ch = cr then 1 else 0) &&& (dev.tcIflag &&& igncr) ≠ 0 then none else some ch
  else some ch

/-- What `uart_write` returns when `uart_putxmitchar` fails with `ret` at byte `pos`. -/
def writeFail (src : List UInt8) (pos : Nat) (crFirst : Bool) (nwritten ret : Int) : Int :=
  -- under `CONFIG_SERIAL_TERMIOS` a failure on the '\r' sets `nwritten = ret` and breaks
  if termios = true ∧ crFirst = true then ret
  else
    let buflen : Int := src.length - pos
    if buflen < nwritten then nwritten - buflen else ret

/-- A step of the write loop at byte `pos`: the end of the loop, or one `uart_putxmitchar`. -/
def writePut (s : SerialState) (src : List UInt8) (pos : Nat) (crFirst : Bool) (nwritten : Int)
    (oktoblock : Bool) : SerialState × SerialReply :=
  match src[pos]? with
  | none => ({ s with writer := .idle }, .ret nwritten)
  | some ch =>
    let c := if crFirst then cr else (outputByte termios s.dev ch).1
    match put s.dev.xmit c with
    | some xmit =>
      if crFirst then
        ({ s with dev := { s.dev with xmit := xmit }, writer := .loop src pos false nwritten oktoblock },
          .queued c)
      else
        ({ s with dev := { s.dev with xmit := xmit },
                  writer := .loop src (pos + 1) (crBefore termios s.dev src (pos + 1)) nwritten oktoblock },
          .queued c)
    | none =>
      if oktoblock then ({ s with writer := .waiting src pos crFirst nwritten oktoblock }, .blocked)
      else ({ s with writer := .idle }, .ret (writeFail termios src pos crFirst nwritten (-eagain)))

def readTurn (s : SerialState) (buflen : Nat) (got : List UInt8) (nonblock : Bool) :
    SerialState × SerialReply :=
  if got.length < buflen then
    match take s.dev.recv with
    | some (ch, recv) =>
      let dev := { s.dev with recv := recv }
      match inputByte termios dev ch with
      | some stored => ({ s with dev := dev, reader := .loop buflen (got ++ [stored]) nonblock }, .took ch)
      | none => ({ s with dev := dev, reader := .loop buflen got nonblock }, .took ch)
    | none =>
      if 0 < got.length then ({ s with reader := .idle }, .readRet got.length got)
      else if nonblock then ({ s with reader := .idle }, .readRet (-eagain) got)
      else ({ s with reader := .waiting buflen got nonblock }, .blocked)
  else ({ s with reader := .idle }, .readRet got.length got)

def serialStep (s : SerialState) : SerialEvent → Option (SerialState × SerialReply)
  | .write src nonblock =>
    match s.writer with
    | .idle => some ({ s with writer := .loop src 0 (crBefore termios s.dev src 0) src.length !nonblock }, .next)
    | _ => none
  | .putNext =>
    match s.writer with
    | .loop src pos crFirst nwritten oktoblock => some (writePut termios s src pos crFirst nwritten oktoblock)
    | _ => none
  | .wake signalled =>
    match s.writer with
    | .waiting src pos crFirst nwritten oktoblock =>
      if signalled then
        some ({ s with writer := .idle }, .ret (writeFail termios src pos crFirst nwritten (-eintr)))
      else some ({ s with writer := .loop src pos crFirst nwritten oktoblock }, .next)
    | _ => none
  | .xmitchar =>
    match s.writer with
    -- the loop of `uart_write` runs with the TX interrupt disabled
    | .loop .. => none
    | _ => (take s.dev.xmit).map fun taken => ({ s with dev := { s.dev with xmit := taken.2 } }, .sent taken.1)
  | .recvchar ch =>
    match put s.dev.recv ch with
    | some recv => some ({ s with dev := { s.dev with recv := recv } }, .received ch true)
    | none => some (s, .received ch false)
  | .read buflen nonblock =>
    match s.reader with
    | .idle => some ({ s with reader := .loop buflen [] nonblock }, .next)
    | _ => none
  | .readNext =>
    match s.reader with
    | .loop buflen got nonblock => some (readTurn termios s buflen got nonblock)
    | _ => none
  | .readWake signalled =>
    match s.reader with
    | .waiting buflen got nonblock =>
      if signalled then
        some ({ s with reader := .idle }, .readRet (if got.length = 0 then -eintr else got.length) got)
      else some ({ s with reader := .loop buflen got nonblock }, .next)
    | _ => none

end Model

/-! ## Every run -/

section Runs

variable {termios : Bool} {s s' : SerialState} {e : SerialEvent} {o : SerialReply}
variable {es : List SerialEvent} {os : List SerialReply}

/-- On the console without termios, a non-blocking write of "a\n" into an empty `xmit` of 3 slots
returns 1 and leaves "a\r". With `OPOST | ONLCR`, the same write into 2 slots returns `-EAGAIN` with
'a' already in `xmit`. With `IGNCR`, a read of two bytes after "\ra" returns both. -/
theorem serial_write_read_diverge :
    (∃ s, runOut (serialStep false)
        ⟨⟨empty (fun _ => 0) 3, empty (fun _ => 0) 3, true, 0, 0⟩, .idle, .idle⟩
        [.write [97, nl] true, .putNext, .putNext, .putNext] =
          some (s, [.next, .queued 97, .queued cr, .ret 1]) ∧
      contents s.dev.xmit = [97, cr]) ∧
    (∃ s, runOut (serialStep true)
        ⟨⟨empty (fun _ => 0) 2, empty (fun _ => 0) 2, false, opost ||| onlcr, 0⟩, .idle, .idle⟩
        [.write [97, nl] true, .putNext, .putNext] =
          some (s, [.next, .queued 97, .ret (-eagain)]) ∧
      contents s.dev.xmit = [97]) ∧
    (∃ s, runOut (serialStep true)
        ⟨⟨empty (fun _ => 0) 4, empty (fun _ => 0) 4, false, 0, igncr⟩, .idle, .idle⟩
        [.recvchar cr, .recvchar 97, .read 2 false, .readNext, .readNext, .readNext] =
          some (s, [.received cr true, .received 97 true, .next, .took cr, .took 97,
            .readRet 2 [cr, 97]])) :=
  ⟨⟨_, rfl, rfl⟩, ⟨_, rfl, rfl⟩, ⟨_, rfl⟩⟩

end Runs

end TinyAra.Drivers.Serial
