/-
# Libc.Stdio -- `snprintf` over the memory stream and the null stream

`snprintf` (lib_snprintf.c) gives `lib_vsprintf` a memory stream on the caller's
buffer when `size > 0`, and a null stream otherwise.  `lib_vsprintf`
(lib_libvsprintf.c) hands its output to the stream one character at a time
through `obj->put` and returns `obj->nput`. The two `put` methods differ:
`nulloutstream_putc` counts every character, while `memoutstream_putc`
(lib_memoutstream.c) stores and counts a character only while it fits in front
of the byte kept for the terminator, so its `nput` stops at `size - 1`.

Which characters `lib_vsprintf` puts depends on the format and the arguments and
never on the stream; here they are the list `out` (the formatter that computes
them is not part of this module). The results:

* `foldl_put_null`: the null stream counts the whole output;
* `memPutAll_nput`: the memory stream counts the first `min (size - 1) L` characters;
* `snprintf_result`: so `snprintf` returns the full length `L`
  only when `size = 0` or when the output fits.
-/
import Mathlib.Data.List.Basic

namespace TinyAra.Libc.Stdio

set_option autoImplicit false

/-- A C character buffer: the byte at every offset from its start. -/
abbrev Buffer := Nat → Char

/-- `struct lib_memoutstream_s`: `nput` is the write index and `buflen` leaves out the
byte reserved for the terminator. -/
structure Memoutstream where
  nput : Nat
  buffer : Buffer
  buflen : Nat

/-- The two `struct lib_outstream_s` instances `snprintf` chooses between; the C
`put` function pointer is the constructor. -/
inductive Outstream where
  | mem (s : Memoutstream)
  | null (nput : Nat)

namespace Outstream

/-- The `nput` field common to every stream. -/
def nput : Outstream → Nat
  | .mem s => s.nput
  | .null n => n

end Outstream

/-- `lib_memoutstream`: an empty string in the buffer, one byte kept for the NUL. -/
def libMemoutstream (bufstart : Buffer) (buflen : Nat) : Memoutstream :=
  { nput := 0, buffer := Function.update bufstart 0 '\x00', buflen := buflen - 1 }

/-- `memoutstream_putc`: store `ch` and a fresh terminator only while `nput < buflen`. -/
def memoutstreamPutc (s : Memoutstream) (ch : Char) : Memoutstream :=
  if s.nput < s.buflen then
    { s with
      nput := s.nput + 1
      buffer := Function.update (Function.update s.buffer s.nput ch) (s.nput + 1) '\x00' }
  else s

/-- `nulloutstream_putc`: count the character and drop it. -/
def nulloutstreamPutc (nput : Nat) (_ch : Char) : Nat := nput + 1

/-- `obj->put(obj, ch)`. -/
def Outstream.put : Outstream → Char → Outstream
  | .mem s, ch => .mem (memoutstreamPutc s ch)
  | .null n, ch => .null (nulloutstreamPutc n ch)

/-- `lib_vsprintf` on a stream, given the characters `out` it puts: the stream afterwards
and the returned `obj->nput`. -/
def libVsprintf (obj : Outstream) (out : List Char) : Outstream × Nat :=
  let obj := out.foldl Outstream.put obj
  (obj, obj.nput)

/-- The buffer a stream leaves behind: a memory stream's buffer, or the untouched `buf`. -/
def Outstream.bufferOr (buf : Buffer) : Outstream → Buffer
  | .mem s => s.buffer
  | .null _ => buf

/-- `snprintf(buf, size, fmt, ...)` for a format whose full output is `out`: the buffer
afterwards and the returned count. -/
def snprintf (buf : Buffer) (size : Nat) (out : List Char) : Buffer × Nat :=
  let stream : Outstream := if size > 0 then .mem (libMemoutstream buf size) else .null 0
  let (obj, n) := libVsprintf stream out
  (obj.bufferOr buf, n)

/-! ## The null stream -/

theorem foldl_put_null (out : List Char) (n : Nat) :
    out.foldl Outstream.put (.null n) = .null (n + out.length) := by
  induction out generalizing n with
  | nil => rfl
  | cons ch out ih =>
      rw [List.foldl_cons, Outstream.put, nulloutstreamPutc, ih]
      simp only [List.length_cons]
      congr 1
      omega

/-! ## The memory stream -/

/-- The memory stream after putting `out`. -/
def memPutAll (s : Memoutstream) (out : List Char) : Memoutstream :=
  out.foldl memoutstreamPutc s

theorem foldl_put_mem (out : List Char) (s : Memoutstream) :
    out.foldl Outstream.put (.mem s) = .mem (memPutAll s out) := by
  induction out generalizing s with
  | nil => rfl
  | cons ch out ih => exact ih (memoutstreamPutc s ch)

@[simp] theorem memoutstreamPutc_buflen (s : Memoutstream) (ch : Char) :
    (memoutstreamPutc s ch).buflen = s.buflen := by
  unfold memoutstreamPutc; split <;> rfl

theorem memPutAll_full (s : Memoutstream) (out : List Char) (full : s.buflen ≤ s.nput) :
    memPutAll s out = s := by
  induction out with
  | nil => rfl
  | cons ch out ih =>
      have stays : memoutstreamPutc s ch = s := by
        unfold memoutstreamPutc
        rw [if_neg (by omega)]
      rw [memPutAll, List.foldl_cons, stays]
      exact ih

theorem memPutAll_cons_of_lt (s : Memoutstream) (ch : Char) (out : List Char)
    (room : s.nput < s.buflen) :
    memPutAll s (ch :: out) =
      memPutAll { s with
        nput := s.nput + 1
        buffer := Function.update (Function.update s.buffer s.nput ch) (s.nput + 1) '\x00' } out := by
  rw [memPutAll, List.foldl_cons, memoutstreamPutc, if_pos room]
  rfl

theorem memPutAll_nput (s : Memoutstream) (out : List Char) (fits : s.nput ≤ s.buflen) :
    (memPutAll s out).nput = min s.buflen (s.nput + out.length) := by
  induction out generalizing s with
  | nil => simp only [memPutAll, List.foldl_nil, List.length_nil, Nat.add_zero]; omega
  | cons ch out ih =>
      by_cases room : s.nput < s.buflen
      · rw [memPutAll_cons_of_lt s ch out room, ih _ (by simp only; omega)]
        simp only [List.length_cons]
        omega
      · rw [memPutAll_full s _ (by omega)]
        simp only [List.length_cons]
        omega

/-! ## snprintf -/

theorem snprintf_pos (buf : Buffer) (size : Nat) (out : List Char) (positive : 0 < size) :
    snprintf buf size out =
      ((memPutAll (libMemoutstream buf size) out).buffer,
        (memPutAll (libMemoutstream buf size) out).nput) := by
  simp only [snprintf, libVsprintf, if_pos positive, foldl_put_mem, Outstream.bufferOr,
    Outstream.nput]

theorem snprintf_zero (buf : Buffer) (out : List Char) :
    snprintf buf 0 out = (buf, out.length) := by
  simp only [snprintf, libVsprintf, gt_iff_lt, Nat.lt_irrefl, if_false, foldl_put_null,
    Outstream.bufferOr, Outstream.nput, Nat.zero_add]

theorem snprintf_result (buf : Buffer) (size : Nat) (out : List Char) :
    (snprintf buf size out).2 = if size = 0 then out.length else min (size - 1) out.length := by
  rcases Nat.eq_zero_or_pos size with zero | positive
  · subst zero
    simp [snprintf_zero]
  · rw [snprintf_pos buf size out positive, if_neg (by omega),
      memPutAll_nput _ _ (by simp [libMemoutstream])]
    simp [libMemoutstream]

/-- `snprintf(buf, 2, "abc")`: the output has three characters, the call returns 1. -/
theorem snprintf_two_abc_returns_one (buf : Buffer) :
    (snprintf buf 2 ['a', 'b', 'c']).2 = 1 := by
  rw [snprintf_result]
  rfl

end TinyAra.Libc.Stdio
