/-
# Mm.Realloc -- the size `mm_realloc` asks for, in 32 bits

`mm_realloc` turns a request of `n` bytes into the chunk size `MM_ALIGN_UP(n +
SIZEOF_MM_ALLOCNODE)` in `size_t` arithmetic, and keeps the old chunk, shrunk with
`mm_shrinkchunk`, whenever that size is at most the old one. Nothing checks the sum for
overflow, so a request within 23 bytes of `SIZE_MAX` wraps to a chunk size of at most
`MM_MIN_CHUNK`:

* `realloc_size_max_keeps_short_chunk`: `realloc(p, SIZE_MAX)` on the heap that boot and one
  `malloc(17)` leave returns `p` in a chunk of 8 usable bytes, and the next `malloc` hands out
  memory 16 bytes past `p`.
-/
import TinyAra.Mm.FreeList

namespace TinyAra.Mm

set_option autoImplicit false

variable {fuel : Nat} {h : MmHeap} {oldmem n : Nat}

/-! ## `realloc(p, SIZE_MAX)` after boot -/

/-- The heap one `mm_malloc(heap, 17)` leaves on `initialHeap`: a chunk of 32 bytes at `0x1008`,
allocated, and a free chunk of 976 bytes at `0x1028`. -/
def mallocHeap : MmHeap := ((mmMalloc 64 initialHeap 17).map Prod.snd).getD initialHeap

/-- The heap `mm_realloc(heap, 0x1010, SIZE_MAX)` leaves on `mallocHeap`. -/
def reallocHeap : MmHeap :=
  ((mmRealloc 64 mallocHeap 0x1010 0xFFFFFFFF).map Prod.snd).getD mallocHeap

theorem realloc_size_max_keeps_short_chunk :
    mmMalloc 64 initialHeap 17 = some (some 0x1010, mallocHeap) ∧
      FreeList mallocHeap (fun i => if i = 5 then [0x1028] else []) ∧
      mallocHeap.hdr 0x1008 = ⟨32, 8, true⟩ ∧
      mmRealloc 64 mallocHeap 0x1010 0xFFFFFFFF = some (some 0x1010, reallocHeap) ∧
      reallocHeap.hdr 0x1008 = ⟨16, 8, true⟩ ∧
      FreeList reallocHeap (fun i => if i = 5 then [0x1018] else []) ∧
      (mmMalloc 64 reallocHeap 17).map Prod.fst = some (some 0x1020) := by
  refine ⟨rfl, ⟨?_, ?_, ?_, ?_, ?_, ?_⟩, by decide +kernel, rfl, by decide +kernel,
    ⟨?_, ?_, ?_, ?_, ?_, ?_⟩, by decide +kernel⟩ <;> decide +kernel

end TinyAra.Mm
