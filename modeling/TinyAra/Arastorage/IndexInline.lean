/-
# Arastorage.IndexInline -- the inline index

`index_inline.c` indexes an attribute whose values grow with the tuple id. The index stores
nothing: a range query `[lo, hi]` is two binary searches over the rows, one for each end. The
first `get_next` of an iterator runs them and caches the two rows found in the statics
`cached_start` and `cached_end`, which every iterator shares; each later call returns the next
row up to `cached_end`.

`binary_search` stops at the first row whose key equals the target, or when its bounds cross, and
returns the row it probed last. That row holds the target, or it sits next to the place where
the target would go, on either side. With duplicate keys, an equality search stops at whichever
equal row it meets first, and a range `[k, k]` is that one row. The bounds are `uint32_t`:
`max = center - 1` at row 0 wraps to `2^32 - 1`, and the search then probes rows past the last.
`storage_get_row` answers such a probe with `DB_FINISHED`, which `DB_ERROR` does not count as an
error, so `get_value` reads a row buffer that nothing filled. The model gives no answer (`none`)
for such a read.

* `inline_index_misses_duplicates`: three rows of key 5 and the range `[5, 5]` give row 1 alone.
-/
import TinyAra.Lib.Loop
import Mathlib

namespace TinyAra.Arastorage.IndexInline

open Loop

set_option autoImplicit false

/-- `INVALID_TUPLE`: `(tuple_id_t)-1`, with `tuple_id_t` a `uint32_t`. -/
def invalidTuple : Nat := 2 ^ 32 - 1

def pred32 (n : Nat) : Nat := (n + (2 ^ 32 - 1)) % 2 ^ 32

def succ32 (n : Nat) : Nat := (n + 1) % 2 ^ 32

/-! ## The searches

The relation is the list of its rows' keys, as `db_value_to_long` reads the indexed attribute;
`relation_cardinality` is its length. -/

/-- `get_value(&index, rel, attr)`, read as a `long`: `none` past the last row, where the row
buffer holds whatever the stack held. -/
def getValue (keys : List Int) (index : Nat) : Option Int := keys[index]?

/-- `center = min + ((max - min) / 2)`. -/
def center (s : Nat × Nat) : Nat := s.1 + (s.2 - s.1) / 2

/-- The bounds after a probe of `center` whose key is `cmp`: `min = center + 1` when the target
is greater, `max = center - 1` otherwise. -/
def moveBounds (target cmp : Int) (s : Nat × Nat) (center : Nat) : Nat × Nat :=
  if target > cmp then (succ32 center, s.2) else (s.1, pred32 center)

/-- One round of the `do ... while` loop of `binary_search` on `(min, max)`: probe the centre,
move one bound past it, and go round again while the bounds have not crossed and the probe missed
the target. -/
def searchRound (keys : List Int) (target : Int) (s : Nat × Nat) : Option (Nat × Int) ⊕ (Nat × Nat) :=
  match getValue keys (center s) with
  | none => .inl none
  | some cmp =>
    let next := moveBounds target cmp s (center s)
    if next.1 ≤ next.2 ∧ target ≠ cmp then .inr next else .inl (some (center s, cmp))

/-- The rounds the model gives the loop: at most 33 before `max` wraps at row 0 and 33 after,
when the search of the whole `uint32_t` range starts over; a search that wraps twice never
ends. -/
def searchRounds : Nat := 66

/-- `binary_search(index_iterator, target_value, exact_match)`. -/
def binarySearch (keys : List Int) (target : Int) (exactMatch : Bool) : Option Nat :=
  let max := keys.length
  if max = invalidTuple then some invalidTuple
  else
    match (loop (searchRound keys target) searchRounds (0, pred32 max)).join with
    | none => none
    | some (center, cmp) => if exactMatch ∧ target ≠ cmp then some invalidTuple else some center

/-- `range_search(iterator, &start, &end)`: the two rows found, or `DB_INDEX_ERROR` (`none`) when
a search returns `INVALID_TUPLE`. -/
def rangeSearch (keys : List Int) (lo hi : Int) : Option (Option (Nat × Nat)) := do
  let exactMatch := decide (lo = hi)
  let start ← binarySearch keys lo exactMatch
  if start = invalidTuple then return none
  let stop ← binarySearch keys hi exactMatch
  if stop = invalidTuple then return none
  return some (start, stop)

/-! ## The iterator -/

/-- The statics `cached_start` and `cached_end` of `get_next`, shared by every iterator. -/
structure Cache where
  cachedStart : Nat
  cachedEnd : Nat
  deriving DecidableEq, Repr

/-- `index_iterator_t`: the range and `next_item_no`. -/
structure Iterator where
  minValue : Int
  maxValue : Int
  nextItemNo : Nat
  deriving DecidableEq, Repr

/-- `get_next(iterator, TRUE)`: the first call searches and caches the rows found, or zeroes the
cache on an index error; a later one returns the next row up to `cached_end`. -/
def getNext (keys : List Int) (cache : Cache) (it : Iterator) : Option (Nat × Cache × Iterator) :=
  if it.nextItemNo = 0 then do
    match ← rangeSearch keys it.minValue it.maxValue with
    | none => pure (invalidTuple, ⟨0, 0⟩, it)
    | some (start, stop) => pure (start, ⟨start, stop⟩, { it with nextItemNo := succ32 it.nextItemNo })
  else if (cache.cachedStart + it.nextItemNo) % 2 ^ 32 ≤ cache.cachedEnd then
    pure ((cache.cachedStart + it.nextItemNo) % 2 ^ 32, cache,
      { it with nextItemNo := succ32 it.nextItemNo })
  else pure (invalidTuple, cache, it)

/-- `index_get_next(iterator, TRUE)`: an equality search on a `UNIQUE` attribute stops after its
first item. -/
def indexGetNext (unique : Bool) (keys : List Int) (cache : Cache) (it : Iterator) :
    Option (Nat × Cache × Iterator) :=
  if unique ∧ it.nextItemNo = 1 ∧ it.minValue = it.maxValue then some (invalidTuple, cache, it)
  else getNext keys cache it

/-- How `relation_process_select` ends a query on the index path: `DB_FINISHED`, or
`DB_INDEX_ERROR` when the first item is not found. -/
inductive Status where
  | finished
  | indexError
  deriving DecidableEq, Repr

/-- `relation_process_select` on the index path, called until it ends, at most `n` times: the tuple
ids it processes and how it ends. -/
def drive (unique : Bool) (keys : List Int) : Nat → Cache → Iterator → Option (Cache × List Nat × Status)
  | 0, _, _ => none
  | n + 1, cache, it => do
    let (id, cache, it) ← indexGetNext unique keys cache it
    if id = invalidTuple then
      pure (cache, [], if it.nextItemNo = 0 then .indexError else .finished)
    else
      let (cache, ids, status) ← drive unique keys n cache it
      pure (cache, id :: ids, status)

/-- A query over `[lo, hi]` on an attribute that is not `UNIQUE`: a fresh iterator
(`index_get_iterator` sets `next_item_no` to 0), the statics as the program starts. -/
def query (keys : List Int) (lo hi : Int) : Option (List Nat × Status) :=
  (drive false keys (keys.length + 2) ⟨0, 0⟩ ⟨lo, hi, 0⟩).map Prod.snd

/-! ## A range over duplicate keys -/

/-- Three rows of key 5, sorted, and the range `[5, 5]`: both searches stop at row 1, the middle
one, and the query returns row 1 alone, though rows 0 and 2 hold 5 as well. -/
theorem inline_index_misses_duplicates :
    ([5, 5, 5] : List Int).Pairwise (· ≤ ·) ∧ query [5, 5, 5] 5 5 = some ([1], .finished) ∧
      getValue [5, 5, 5] 0 = some 5 ∧ getValue [5, 5, 5] 2 = some 5 := by
  decide

end TinyAra.Arastorage.IndexInline
