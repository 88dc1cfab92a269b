/-
# Mm.Heap -- the heap allocator of mm_heap

`mm_heap` carves one region of memory into chunks, each headed by a `struct mm_allocnode_s`
that holds its `size` and the size of the chunk before it (`preceding`), whose top bit
`MM_ALLOC_BIT` marks the chunk allocated. An allocated guard chunk stands at each end of the
region. A free chunk also carries the links `flink` and `blink` of `struct mm_freenode_s`, by
which it sits in one doubly linked list that runs through the `MM_NNODES` nodes of
`heap->mm_nodelist`: node `i` heads the free chunks that `mm_size2ndx` puts in class `i`, by
size, and the chunks of class `i` are followed by node `i + 1`.

This module embeds, under their names, `mm_size2ndx`, `mm_addfreechunk`, `mm_malloc`,
`mm_free`, `mm_shrinkchunk`, `mm_realloc`, `mm_memalign`, `mm_initialize` and `mm_addregion`,
for the default configuration: one region, 32-bit `size_t`, no `CONFIG_MM_SMALL`, no
`CONFIG_DEBUG_MM_HEAPINFO` (so `SIZEOF_MM_ALLOCNODE` is 8), and the neighbour extension of
`mm_realloc` enabled. The semaphore and the debug output are left out.

The memory is seen three ways at once: the header fields at every address (`hdr`), the links
at every address (`links`), and the bytes (`mem`). The modelled functions write header fields
and links only where the C code writes them, and bytes only by `memcpy`, whose destination is
always inside a chunk's payload. A walk along the links visits at most `fuel` nodes; a walk
that needs more, and a `NULL` dereference, give `none`.
-/
import TinyAra.Lib.DoublyLinked
import TinyAra.Lib.Memory
import Mathlib

namespace TinyAra.Mm

open DoublyLinked

set_option autoImplicit false

/-! ## Sizes -/

def mmMinShift : Nat := 4
def mmMaxShift : Nat := 22
def mmMinChunk : Nat := 2 ^ mmMinShift
def mmMaxChunk : Nat := 2 ^ mmMaxShift
def mmNnodes : Nat := mmMaxShift - mmMinShift + 1
def mmGranMask : Nat := mmMinChunk - 1
def sizeofMmAllocnode : Nat := 8
def sizeofMmFreenode : Nat := 16

def sizeT (a : Nat) : Nat := a % 2 ^ 32

def complement (mask : Nat) : Nat := 2 ^ 32 - 1 - mask

def mmAlignUp (a : Nat) : Nat := sizeT (a + mmGranMask) &&& complement mmGranMask

def mmAlignDown (a : Nat) : Nat := a &&& complement mmGranMask

/-- The loop of `mm_size2ndx`: one index more for each halving while the size is above one.
A `size_t` halves to one within 32 rounds. -/
def size2ndxLoop : Nat → Nat → Nat → Nat
  | 0, ndx, _ => ndx
  | rounds + 1, ndx, size => if size > 1 then size2ndxLoop rounds (ndx + 1) (size >>> 1) else ndx

def mmSize2ndx (size : Nat) : Nat :=
  if mmMaxChunk ≤ size then mmNnodes - 1 else size2ndxLoop 32 0 (size >>> mmMinShift)

/-! ## The heap -/

/-- The header fields of `struct mm_allocnode_s`: `size`, and `preceding` apart from its top
bit `MM_ALLOC_BIT`, which is `allocated`. -/
structure Header where
  size : Nat
  preceding : Nat
  allocated : Bool
  deriving DecidableEq, Repr

/-- `struct mm_heap_s` with one region, and the memory it manages. -/
structure MmHeap where
  /-- The header fields at every address. -/
  hdr : Nat → Header
  /-- `flink` and `blink` at every address. -/
  links : Links Nat
  /-- The bytes. -/
  mem : Nat → UInt8
  /-- `&heap->mm_nodelist[0]`. -/
  nodelist : Nat
  /-- `heap->mm_heapstart[0]` and `heap->mm_heapend[0]`. -/
  heapstart : Nat
  heapend : Nat

namespace MmHeap

variable (h : MmHeap)

/-- `&heap->mm_nodelist[i]`. -/
def node (i : Nat) : Nat := h.nodelist + sizeofMmFreenode * i

def modifyHdr (a : Nat) (f : Header → Header) : MmHeap :=
  { h with hdr := Function.update h.hdr a (f (h.hdr a)) }

@[simp] theorem hdr_modifyHdr (a b : Nat) (f : Header → Header) :
    (h.modifyHdr a f).hdr b = if b = a then f (h.hdr a) else h.hdr b :=
  Function.update_apply _ _ _ _

@[simp] theorem links_modifyHdr (a : Nat) (f : Header → Header) :
    (h.modifyHdr a f).links = h.links := rfl

@[simp] theorem nodelist_modifyHdr (a : Nat) (f : Header → Header) :
    (h.modifyHdr a f).nodelist = h.nodelist := rfl

@[simp] theorem mem_modifyHdr (a : Nat) (f : Header → Header) :
    (h.modifyHdr a f).mem = h.mem := rfl

/-- `node->blink->flink = node->flink; if (node->flink) node->flink->blink = node->blink;`
after `DEBUGASSERT(node->blink)`: a node with no predecessor is a `NULL` dereference. -/
def remove (node : Nat) : Option MmHeap := do
  let prev ← h.links.blink node
  let L := h.links.setFlink prev (h.links.flink node)
  match L.flink node with
  | some next => some { h with links := L.setBlink next (L.blink node) }
  | none => some { h with links := L }

/-- `prev->flink = node; node->blink = prev; node->flink = next; if (next) next->blink = node;`. -/
def insertAfter (prev node : Nat) (next : Option Nat) : MmHeap :=
  let L := ((h.links.setFlink prev (some node)).setBlink node (some prev)).setFlink node next
  match next with
  | some n => { h with links := L.setBlink n (some node) }
  | none => { h with links := L }

end MmHeap

/-! ## Free chunks -/

/-- The loop of `mm_addfreechunk`: from `prev` and `next`, on while `next` is a node of nonzero
size below `size`; the place found is between the two. -/
def addLoop (h : MmHeap) (size : Nat) : Nat → Nat → Option Nat → Option (Nat × Option Nat)
  | _, prev, none => some (prev, none)
  | 0, _, some _ => none
  | fuel + 1, prev, some next =>
    if (h.hdr next).size ≠ 0 ∧ (h.hdr next).size < size then
      addLoop h size fuel next (h.links.flink next)
    else some (prev, some next)

/-- `mm_addfreechunk(heap, node)`: `node` goes into the list of its class, after the chunks
smaller than it. -/
def mmAddfreechunk (fuel : Nat) (h : MmHeap) (node : Nat) : Option MmHeap := do
  let ndx := mmSize2ndx (h.hdr node).size
  let (prev, next) ← addLoop h (h.hdr node).size fuel (h.node ndx) (h.links.flink (h.node ndx))
  some (h.insertAfter prev node next)

/-! ## `mm_malloc` -/

/-- The chunk size `mm_malloc` and `mm_realloc` look for: the request and a header, rounded
up to the granule. -/
def chunkSize (size : Nat) : Nat := mmAlignUp (sizeT (size + sizeofMmAllocnode))

/-- What `mm_malloc` does to the free node `node` it found: unlink it, cut off the chunk of
`size` bytes when the rest can be a free node and list the rest, and mark it allocated. -/
def mallocTake (fuel : Nat) (h : MmHeap) (node size : Nat) : Option MmHeap := do
  let h ← h.remove node
  let remaining := (h.hdr node).size - size
  let h ←
    if sizeofMmFreenode ≤ remaining then
      let next := node + (h.hdr node).size
      let remainder := node + size
      -- remainder->size = remaining; remainder->preceding = size;
      let h := h.modifyHdr remainder fun _ => ⟨remaining, size, false⟩
      let h := h.modifyHdr node fun x => { x with size := size }
      -- next->preceding = remaining | (next->preceding & MM_ALLOC_BIT);
      let h := h.modifyHdr next fun x => { x with preceding := remaining }
      mmAddfreechunk fuel h remainder
    else some h
  some (h.modifyHdr node fun x => { x with allocated := true })

/-- `mm_malloc(heap, size)`: the payload of the first node of the list, from the class of the
chunk size on, that is that large. -/
def mmMalloc (fuel : Nat) (h : MmHeap) (size : Nat) : Option (Option Nat × MmHeap) :=
  if size < 1 then some (none, h)
  else
    let size := chunkSize size
    let ndx := if mmMaxChunk ≤ size then mmNnodes - 1 else mmSize2ndx size
    match h.links.walk (fun node => decide ((h.hdr node).size < size)) fuel
        (h.links.flink (h.node ndx)) with
    | none => none
    | some none => some (none, h)
    | some (some node) => do
      let h ← mallocTake fuel h node size
      some (some (node + sizeofMmAllocnode), h)

/-! ## `mm_free` and `mm_shrinkchunk` -/

/-- `mm_free(heap, mem)`: the chunk is marked free, merged with a free chunk after it and a free
chunk before it, and listed. -/
def mmFree (fuel : Nat) (h : MmHeap) (mem : Nat) : Option MmHeap :=
  if mem = 0 then some h
  else do
    let node := mem - sizeofMmAllocnode
    let h := h.modifyHdr node fun x => { x with allocated := false }
    let next := node + (h.hdr node).size
    let (h, next) ←
      if !(h.hdr next).allocated then do
        let andbeyond := next + (h.hdr next).size
        let h ← h.remove next
        let h := h.modifyHdr node fun x => { x with size := x.size + (h.hdr next).size }
        let h := h.modifyHdr andbeyond fun x => { x with preceding := (h.hdr node).size }
        some (h, andbeyond)
      else some (h, next)
    let prev := node - (h.hdr node).preceding
    let (h, node) ←
      if !(h.hdr prev).allocated then do
        let h ← h.remove prev
        let h := h.modifyHdr prev fun x => { x with size := x.size + (h.hdr node).size }
        let h := h.modifyHdr next fun x => { x with preceding := (h.hdr prev).size }
        some (h, prev)
      else some (h, node)
    mmAddfreechunk fuel h node

/-- `mm_shrinkchunk(heap, node, size)`: the end of the chunk from `size` on goes to a free chunk
after it, or becomes a free chunk when it can be one. -/
def mmShrinkchunk (fuel : Nat) (h : MmHeap) (node size : Nat) : Option MmHeap :=
  let next := node + (h.hdr node).size
  if !(h.hdr next).allocated then do
    let andbeyond := next + (h.hdr next).size
    let h ← h.remove next
    let newnode := node + size
    -- newnode->size = next->size + node->size - size; newnode->preceding = size;
    let h := h.modifyHdr newnode fun _ => ⟨(h.hdr next).size + (h.hdr node).size - size, size, false⟩
    let h := h.modifyHdr node fun x => { x with size := size }
    let h := h.modifyHdr andbeyond fun x => { x with preceding := (h.hdr newnode).size }
    mmAddfreechunk fuel h newnode
  else if size + sizeofMmFreenode ≤ (h.hdr node).size then
    let newnode := node + size
    let h := h.modifyHdr newnode fun _ => ⟨(h.hdr node).size - size, size, false⟩
    let h := h.modifyHdr node fun x => { x with size := size }
    -- next->preceding = newnode->size | MM_ALLOC_BIT;
    let h := h.modifyHdr next fun x => { x with preceding := (h.hdr newnode).size, allocated := true }
    mmAddfreechunk fuel h newnode
  else some h

/-! ## `mm_realloc` -/

/-- How much of the free chunks before and after `mm_realloc` takes, of sizes `prevsize` and
`nextsize`, when it needs `needed` more bytes: the smaller of the two first. -/
def reallocTakes (needed prevsize nextsize : Nat) : Nat × Nat :=
  let (takeprev, takenext, needed) :=
    if 0 < prevsize ∧ (prevsize ≤ nextsize ∨ nextsize < 1) then
      if prevsize < needed then (prevsize, needed - prevsize, 0) else (needed, 0, 0)
    else (0, 0, needed)
  if 0 < nextsize ∧ needed ≠ 0 then
    if nextsize < needed then (needed - nextsize, nextsize) else (0, needed)
  else (takeprev, takenext)

/-- The extension of `mm_realloc` into the free chunk `prev` before `oldnode`, taking `takeprev`
bytes of it, all of it when the rest could not be a free node; the contents move down with
`memcpy`. -/
def reallocPrev (fuel : Nat) (h : MmHeap) (oldmem oldnode oldsize prev prevsize next takeprev : Nat) :
    Option (MmHeap × Nat × Nat × Nat) := do
  let h ← h.remove prev
  let (h, newnode) ←
    if sizeofMmFreenode ≤ prevsize - takeprev then do
      let newnode := oldnode - takeprev
      let h := h.modifyHdr prev fun x => { x with size := x.size - takeprev }
      -- newnode->size = oldsize + takeprev; newnode->preceding = prev->size | MM_ALLOC_BIT;
      let h := h.modifyHdr newnode fun _ => ⟨oldsize + takeprev, (h.hdr prev).size, true⟩
      let h := h.modifyHdr next fun x => { x with preceding := (h.hdr newnode).size }
      let h ← mmAddfreechunk fuel h prev
      some (h, newnode)
    else
      let newnode := oldnode - (h.hdr prev).size
      let h := h.modifyHdr newnode fun x => { x with size := x.size + oldsize }
      let h := h.modifyHdr newnode fun x => { x with allocated := true }
      let h := h.modifyHdr next fun x => { x with preceding := (h.hdr newnode).size }
      some (h, newnode)
  let oldsize := (h.hdr newnode).size
  let newmem := newnode + sizeofMmAllocnode
  -- memcpy(newmem, oldmem, oldsize - SIZEOF_MM_ALLOCNODE)
  some ({ h with mem := Memory.copy h.mem newmem oldmem (oldsize - sizeofMmAllocnode) },
    newnode, oldsize, newmem)

/-- The extension of `mm_realloc` into the free chunk `next` after `oldnode`, taking `takenext`
bytes of it, all of it when the rest could not be a free node. -/
def reallocNext (fuel : Nat) (h : MmHeap) (oldnode oldsize next nextsize takenext : Nat) :
    Option MmHeap := do
  let andbeyond := next + nextsize
  let h ← h.remove next
  if sizeofMmFreenode ≤ nextsize - takenext then
    let h := h.modifyHdr oldnode fun x => { x with size := oldsize + takenext }
    let newnode := oldnode + (h.hdr oldnode).size
    -- newnode->size = nextsize - takenext; newnode->preceding = oldnode->size;
    let h := h.modifyHdr newnode fun _ => ⟨nextsize - takenext, (h.hdr oldnode).size, false⟩
    let h := h.modifyHdr andbeyond fun x => { x with preceding := (h.hdr newnode).size }
    mmAddfreechunk fuel h newnode
  else
    let h := h.modifyHdr oldnode fun x => { x with size := oldsize + nextsize }
    some (h.modifyHdr andbeyond fun x => { x with preceding := (h.hdr oldnode).size })

def mmRealloc (fuel : Nat) (h : MmHeap) (oldmem size : Nat) : Option (Option Nat × MmHeap) :=
  if oldmem = 0 then mmMalloc fuel h size
  else if size < 1 then do
    let h ← mmFree fuel h oldmem
    some (none, h)
  else
    let size := chunkSize size
    let oldnode := oldmem - sizeofMmAllocnode
    let oldsize := (h.hdr oldnode).size
    if size ≤ oldsize then do
      let h ← if size < oldsize then mmShrinkchunk fuel h oldnode size else some h
      some (some oldmem, h)
    else
      let next := oldnode + oldsize
      let nextsize := if (h.hdr next).allocated then 0 else (h.hdr next).size
      let prev := oldnode - (h.hdr oldnode).preceding
      let prevsize := if (h.hdr prev).allocated then 0 else (h.hdr prev).size
      if size ≤ nextsize + prevsize + oldsize then do
        let (takeprev, takenext) := reallocTakes (size - oldsize) prevsize nextsize
        let (h, oldnode, oldsize, newmem) ←
          if takeprev ≠ 0 then reallocPrev fuel h oldmem oldnode oldsize prev prevsize next takeprev
          else some (h, oldnode, oldsize, oldmem)
        let h ← if takenext ≠ 0 then reallocNext fuel h oldnode oldsize next nextsize takenext
          else some h
        some (some newmem, h)
      else do
        -- `size` is the chunk size by now, and `mm_malloc` adds a header to it again
        let (newmem, h) ← mmMalloc fuel h size
        match newmem with
        | none => some (none, h)
        | some newmem =>
          let h := { h with mem := Memory.copy h.mem newmem oldmem oldsize }
          let h ← mmFree fuel h oldmem
          some (some newmem, h)

/-! ## `mm_memalign` -/

/-- `mm_memalign(heap, alignment, size)`: a chunk of twice the alignment more, whose head up to
the first alignment point at least a free node past its start is given back, and whose tail
beyond `size` is shrunk off. -/
def mmMemalign (fuel : Nat) (h : MmHeap) (alignment size : Nat) : Option (Option Nat × MmHeap) :=
  let mask := sizeT (alignment - 1)
  if alignment ≤ mmMinChunk then mmMalloc fuel h size
  else
    let size := mmAlignUp size
    let allocsize := sizeT (size + 2 * alignment)
    match mmMalloc fuel h allocsize with
    | none => none
    | some (none, h) => some (none, h)
    | some (some rawchunk, h) => do
      let node := rawchunk - sizeofMmAllocnode
      let alignedchunk := sizeT (rawchunk + mask) &&& complement mask
      let (h, node, alignedchunk, allocsize) ←
        if alignedchunk ≠ rawchunk then
          let next := node + (h.hdr node).size
          let newnode := alignedchunk - sizeofMmAllocnode
          let precedingsize := newnode - node
          -- use the second alignment point when the first leaves no room for a free node
          let (alignedchunk, newnode, precedingsize) :=
            if precedingsize < sizeofMmFreenode then
              (alignedchunk + alignment, alignedchunk + alignment - sizeofMmAllocnode,
                alignedchunk + alignment - sizeofMmAllocnode - node)
            else (alignedchunk, newnode, precedingsize)
          -- newnode->size = next - newnode; newnode->preceding = precedingsize | MM_ALLOC_BIT;
          let h := h.modifyHdr newnode fun _ => ⟨next - newnode, precedingsize, true⟩
          let h := h.modifyHdr node fun x => { x with size := precedingsize, allocated := false }
          let h := h.modifyHdr next fun x => { x with preceding := (h.hdr newnode).size }
          let allocsize := (h.hdr newnode).size - sizeofMmAllocnode
          let h ← mmAddfreechunk fuel h node
          some (h, newnode, alignedchunk, allocsize)
        else some (h, node, alignedchunk, allocsize)
      let h ← if size < allocsize then mmShrinkchunk fuel h node (size + sizeofMmAllocnode)
        else some h
      some (some alignedchunk, h)

/-! ## `mm_initialize` -/

/-- `mm_addregion(heap, heapstart, heapsize)`: the region aligned to the granule, a guard chunk
at each end, and one free chunk between them. -/
def mmAddregion (fuel : Nat) (h : MmHeap) (heapstart heapsize : Nat) : Option MmHeap :=
  let heapbase := mmAlignUp heapstart
  let heapend := mmAlignDown (sizeT (heapstart + heapsize))
  let heapsize := heapend - heapbase
  let node := heapbase + sizeofMmAllocnode
  let nodesize := heapsize - 2 * sizeofMmAllocnode
  let h := { h with heapstart := heapbase, heapend := heapend - sizeofMmAllocnode }
  let h := h.modifyHdr heapbase fun _ => ⟨sizeofMmAllocnode, 0, true⟩
  let h := h.modifyHdr node fun _ => ⟨nodesize, sizeofMmAllocnode, false⟩
  let h := h.modifyHdr (heapend - sizeofMmAllocnode) fun _ => ⟨sizeofMmAllocnode, nodesize, true⟩
  mmAddfreechunk fuel h node

/-- Node `i` of the array as `mm_initialize` leaves it: zeroed, and linked to its neighbours. -/
def nodelistEntry (h : MmHeap) (i : Nat) : MmHeap :=
  let h := h.modifyHdr (h.node i) fun _ => ⟨0, 0, false⟩
  let flink := if i + 1 < mmNnodes then some (h.node (i + 1)) else none
  let blink := if i = 0 then none else some (h.node (i - 1))
  { h with links := (h.links.setFlink (h.node i) flink).setBlink (h.node i) blink }

def nodelistInit (h : MmHeap) : MmHeap := (List.range mmNnodes).foldl nodelistEntry h

def mmInitialize (fuel : Nat) (h : MmHeap) (heapstart heapsize : Nat) : Option MmHeap :=
  mmAddregion fuel (nodelistInit h) heapstart heapsize

/-! ## A heap after `mm_initialize` -/

/-- A heap with nothing written, whose node array is at `0x100`. -/
def blankHeap : MmHeap :=
  ⟨fun _ => ⟨0, 0, false⟩, ⟨fun _ => none, fun _ => none⟩, fun _ => 0, 0x100, 0, 0⟩

/-- `mm_initialize` over the 1024 bytes at `0x1000`: a guard chunk at `0x1000`, one free chunk of
1008 bytes at `0x1008`, and a guard chunk at `0x13f8`. -/
def initialHeap : MmHeap := (mmInitialize 64 blankHeap 0x1000 0x400).getD blankHeap

/-- `mm_memalign(heap, 32, 16)` on `initialHeap` returns `0x1020` but shrinks its chunk to `16 +
SIZEOF_MM_ALLOCNODE` bytes, so the free chunk after it starts at `0x1030`, off the granule pattern
`mm_initialize` set up; the next `mm_malloc(heap, 17)` returns the unaligned `0x1038`. -/
theorem memalign_breaks_chunk_alignment :
    initialHeap.hdr 0x1008 = ⟨1008, 8, false⟩ ∧
      (mmMalloc 64 initialHeap 17).map Prod.fst = some (some 0x1010) ∧
      ∃ h₁, mmMemalign 64 initialHeap 32 16 = some (some 0x1020, h₁) ∧
        h₁.hdr 0x1018 = ⟨24, 16, true⟩ ∧ h₁.hdr 0x1030 = ⟨968, 24, false⟩ ∧
        (mmMalloc 64 h₁ 17).map Prod.fst = some (some 0x1038) :=
  ⟨by decide +kernel, by decide +kernel, _, rfl, by decide +kernel, by decide +kernel,
    by decide +kernel⟩

end TinyAra.Mm
