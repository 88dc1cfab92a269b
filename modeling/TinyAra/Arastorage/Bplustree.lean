/-
# Arastorage.Bplustree -- the B+-tree index

`index_bplustree.c` indexes a relation by an integer attribute. The tree's nodes hold up to
`BRANCH_FACTOR - 1` separators and route a key to the first child whose separator is at least
the key. The leaves route to buckets of up to `BUCKET_SIZE` key/tuple pairs, unsorted, and
each bucket is chained to the next one in key order through `info[0]`, with its least and
greatest key in `info[1]` and `info[2]`.

An insert appends to the bucket its key routes to. A full bucket is split: its pairs and the
new one are sorted, the median key is inserted in the leaf above (`tree_split`, which splits
full nodes top-down and grows a new root), and the lower half stays while the upper half goes
to a new bucket chained after it. A range query (`get_next`) starts at the bucket of its
lower bound and walks the chain, returning one tuple per call.

The node and bucket caches are modelled as the store they cache: a run within
`DB_TREE_CACHE_LIMIT` nodes and `DB_HEAP_CACHE_LIMIT` buckets evicts nothing, and every cache
lock an operation takes it also releases. The bucket locks (`lock_buckets`) are modelled. A
bucket's pairs are those below `next_free_slot`; the slots above it hold whatever the stack
held when the bucket was built, and a read of one is `none`, like a loop that spins on a lock
nobody releases.
-/
import Mathlib

namespace TinyAra.Arastorage.Bplustree

set_option autoImplicit false

/-- `CONFIG_BRANCH_FACTOR`, `BUCKET_SIZE`, `KEY_MAX`, `CONFIG_BUCKETS_LIMIT`,
`CONFIG_NODE_LIMIT` and `ROOT_NODE_PARENT`, with the configuration's defaults. -/
def branchFactor : Nat := 5
def bucketSize : Nat := 48
def keyMax : Nat := 32768
def bucketsLimit : Nat := 80
def nodeLimit : Nat := 110
def rootNodeParent : Nat := 255

/-- `pair_t`: a key and a tuple id, each a `uint16_t`. -/
structure Pair where
  key : Nat
  value : Nat
  deriving DecidableEq, Repr

/-- `tree_node_t`: the separators `val[0 .. val[BRANCH_FACTOR - 1])` and the children `id`, one
more than the separators. -/
structure TreeNode where
  val : List Nat
  id : List Nat
  isLeaf : Bool
  deriving DecidableEq, Repr

/-- `bucket_t`: the pairs below `next_free_slot`, the next bucket of the chain (`info[0]`), and
the least and greatest key (`info[1]`, `info[2]`). -/
structure Bucket where
  pairs : List Pair
  info0 : Nat
  info1 : Nat
  info2 : Nat
  deriving DecidableEq, Repr

def Bucket.nextFreeSlot (b : Bucket) : Nat := b.pairs.length

/-- `tsplit_status_t`, `bsplit_status_t` and `tree_result_t`. -/
inductive TsplitStatus
  | error
  | fail
  | ok
  deriving DecidableEq, Repr

inductive BsplitStatus
  | retry
  | fail
  | ok
  deriving DecidableEq, Repr

inductive TreeResult
  | lockError
  | readFail
  | insertFail
  | ok
  deriving DecidableEq, Repr

/-- `cache_result_t`. -/
inductive CacheResult
  | full
  | ok
  | notExist
  | allocationError
  | bucketFull
  | unlocked
  deriving DecidableEq, Repr

/-- `tree_t` with the tree and bucket files behind their caches. -/
structure Tree where
  nodes : Nat → Option TreeNode
  buckets : Nat → Option Bucket
  offNodes : Nat
  offBuckets : Nat
  root : Nat
  lockBuckets : Nat → Bool
  inserted : Nat
  levels : Nat

namespace Tree

variable (t : Tree)

def setNode (i : Nat) (n : TreeNode) : Tree := { t with nodes := Function.update t.nodes i (some n) }

def setBucket (i : Nat) (b : Bucket) : Tree :=
  { t with buckets := Function.update t.buckets i (some b) }

def setLock (i : Nat) (held : Bool) : Tree :=
  { t with lockBuckets := Function.update t.lockBuckets i held }

end Tree

/-- The child `tree_find` goes to from a node: the first separator at least the key, or the
last child. -/
def TreeNode.route (n : TreeNode) (key : Nat) : Nat := n.val.findIdx fun v => decide (key ≤ v)

/-- A path of `tree_find`: `path[0]` is `ROOT_NODE_PARENT`, then each node with the child taken,
and last the bucket. -/
abbrev Path := List (Nat × Nat)

/-- The loop of `tree_find` from node `id`. The inner `none` is the `NULL` of a bucket another
caller holds, or of a node that cannot be read; the outer one a walk that does not end. -/
def treeFindFrom (t : Tree) (key : Nat) : Nat → Nat → Path → Option (Option (Path × Tree))
  | 0, _, _ => none
  | fuel + 1, id, path =>
    match t.nodes id with
    | none => some none
    | some node =>
      let j := node.route key
      let path := path ++ [(id, j)]
      if node.isLeaf then
        let bucket := node.id.getD j 0
        if t.lockBuckets bucket then some none
        else some (some (path ++ [(bucket, 0)], t.setLock bucket true))
      else treeFindFrom t key fuel (node.id.getD j 0) path

/-- `tree_find(tree, key)`: the path to the bucket of `key`, whose lock it takes. -/
def treeFind (t : Tree) (key : Nat) : Option (Option (Path × Tree)) :=
  treeFindFrom t key (nodeLimit + 1) t.root [(rootNodeParent, 0)]

/-- The bucket at the end of a path. -/
def Path.bucket (t : Tree) (path : Path) : Nat := (path.getD t.levels (0, 0)).1

/-- `tree_split(tree, key, id, path, level)`: `key` with `id` as the child to its right goes
into the node at `path[level]`, after the child the path took. A full node is split around
its median, which goes up a level first; above the root a new root is made. -/
def treeSplit (key id : Nat) (path : Path) : Nat → Tree → Option (TsplitStatus × Tree)
  | level, t =>
    let (node, child) := path.getD level (rootNodeParent, 0)
    if node = rootNodeParent then
      let newRoot := t.offNodes
      if nodeLimit < t.offNodes + 1 then some (.fail, t)
      else
        some (.ok, { t.setNode newRoot ⟨[key], [t.root, id], false⟩ with
          offNodes := t.offNodes + 1, root := newRoot, levels := t.levels + 1 })
    else
      match t.nodes node with
      | none => some (.error, t)
      | some n =>
        if n.val.length < branchFactor - 1 then
          some (.ok, t.setNode node ⟨n.val.insertIdx child key, n.id.insertIdx (child + 1) id, n.isLeaf⟩)
        else
          let nid := t.offNodes
          if nodeLimit < t.offNodes + 1 then some (.fail, t)
          else
            let keyArr := n.val.insertIdx child key
            let idsArr := n.id.insertIdx (child + 1) id
            match level with
            | 0 => none
            | level + 1 =>
              match treeSplit (keyArr.getD (branchFactor / 2) 0) nid path level
                  { t with offNodes := t.offNodes + 1 } with
              | none => none
              | some (.ok, t) =>
                -- the left half stays in the node, the right half goes to `nid`
                some (.ok, (t.setNode node ⟨keyArr.take (branchFactor / 2),
                  idsArr.take (branchFactor / 2 + 1), n.isLeaf⟩).setNode nid
                  ⟨keyArr.drop (branchFactor / 2 + 1), idsArr.drop (branchFactor / 2 + 1), n.isLeaf⟩)
              | some (res, t) => some (res, { t with offNodes := t.offNodes - 1 })

/-- `bucket_split(tree, key, value, path)`: the full bucket's pairs and the new one, sorted by
key, split at the median, whose key goes into the leaf above with the new bucket to its right.
The lower half stays, chained to the new bucket, which holds the upper half.  `qsort`'s order
of equal keys is not fixed (its comparator never answers equal); the model keeps them in bucket
order. When the tree cannot take the median the new pair is dropped and the result is still
`BSPLIT_OK`. -/
def bucketSplit (t : Tree) (key value : Nat) (path : Path) : Option (BsplitStatus × Tree) :=
  let bucketId := path.bucket t
  if t.offBuckets = bucketsLimit - 1 then some (.fail, t)
  else
    match t.buckets bucketId with
    | none => none
    | some bucket =>
      let tuples := (bucket.pairs.take bucketSize ++ [Pair.mk key value]).insertionSort
        fun p q : Pair => p.key ≤ q.key
      let half := (bucketSize + 1) / 2
      let bId := t.offBuckets
      match treeSplit (tuples.getD half ⟨0, 0⟩).key bId path (t.levels - 1)
          { t with offBuckets := t.offBuckets + 1 } with
      | none => none
      | some (.ok, t) =>
        let b1 := tuples.take half
        let b2 := tuples.drop half
        some (.ok, (t.setBucket bucketId ⟨b1, bId, (b1.headD ⟨0, 0⟩).key, (b1.getLastD ⟨0, 0⟩).key⟩).setBucket
          bId ⟨b2, bucket.info0, (b2.headD ⟨0, 0⟩).key, (b2.getLastD ⟨0, 0⟩).key⟩)
      | some (_, t) => some (.ok, { t with offBuckets := t.offBuckets - 1 })

/-- `cache_bucket_append(tree, bucket_id, pair)`: the pair at `next_free_slot`, the key bounds
widened, and the bucket's lock released. -/
def cacheBucketAppend (t : Tree) (bucketId : Nat) (pair : Pair) : Option (CacheResult × Tree) :=
  match t.buckets bucketId with
  | none => some (.notExist, t)
  | some b =>
    if bucketSize ≤ b.nextFreeSlot then some (.bucketFull, t)
    else
      let t := t.setBucket bucketId
        { b with info1 := min b.info1 pair.key, info2 := max b.info2 pair.key, pairs := b.pairs ++ [pair] }
      if t.lockBuckets bucketId then some (.ok, t.setLock bucketId false) else some (.unlocked, t)

/-- `insert_item_btree(tree, key, value)`. Its `while (bucket_id < 0)` retries a `tree_find`
that failed, which alone in the system fails again for ever. -/
def insertItemBtree (t : Tree) (key value : Nat) : Option (TreeResult × Tree) := do
  let found ← treeFind t (key % 2 ^ 16)
  let (path, t) ← found
  let bucketId := path.bucket t
  let bucket ← t.buckets bucketId
  if bucket.nextFreeSlot = bucketSize then
    let (res, t) ← bucketSplit t (key % 2 ^ 16) (value % 2 ^ 16) path
    match res with
    | .retry => none
    | res =>
      -- the bucket's lock, taken by `tree_find`, is released; without it the edit is refused
      if t.lockBuckets bucketId then
        pure (if res = .fail then .insertFail else .ok, t.setLock bucketId false)
      else pure (.lockError, t)
  else
    let (_, t) ← cacheBucketAppend t bucketId ⟨key % 2 ^ 16, value % 2 ^ 16⟩
    some (.ok, { t with inserted := t.inserted + 1 })

/-- `db_result_t` as `insert` returns it. -/
inductive DbResult
  | ok
  | indexError
  deriving DecidableEq, Repr

/-- `insert(index, key, value)`. -/
def insert (t : Tree) (key value : Nat) : Option (DbResult × Tree) :=
  (insertItemBtree t key value).map fun (res, t) =>
    (if res = .insertFail then .indexError else .ok, t)

/-- `create(index)`: a root leaf routing every key up to `KEY_MAX` to bucket 0, and keys above
it to `CONFIG_BUCKETS_LIMIT - 1`, the end of every chain. -/
def create : Tree where
  nodes := Function.update (fun _ => none) 0 (some ⟨[keyMax], [0, bucketsLimit - 1], true⟩)
  buckets := Function.update (fun _ => none) 0 (some ⟨[], bucketsLimit - 1, keyMax, 0⟩)
  offNodes := 1
  offBuckets := 1
  root := 0
  lockBuckets := fun _ => false
  inserted := 0
  levels := 2

/-- `index_iterator_t`: the range and the counts `get_next` keeps. -/
structure Iterator where
  minValue : Nat
  maxValue : Nat
  nextItemNo : Nat
  foundItems : Nat
  deriving DecidableEq, Repr

/-- `get_next`'s static `struct iteration_cache`: the bucket it is in and the slots left. -/
structure IterationCache where
  bucketId : Nat
  bucket : Bucket
  start : Nat
  stop : Nat
  deriving DecidableEq, Repr

/-- What `get_next` returns: a tuple id, or `INVALID_TUPLE`. -/
inductive Next
  | tuple (tid : Nat)
  | invalid
  deriving DecidableEq, Repr

/-- `next_bucket(tree, bucket)`: the next bucket of the chain, `none` at its end. -/
def nextBucket (b : Bucket) : Option Nat :=
  let next := b.info0 % 2 ^ 16
  if next = 2 ^ 16 - 1 ∨ next = bucketsLimit - 1 then none else some next

/-- The `for` loop of `get_next`: the first slot from `i` on, `n` of them, whose key is in the
range. The outer `none` is a read of a slot above `next_free_slot`. -/
def scanBucket (b : Bucket) (keyMin keyMax : Nat) : Nat → Nat → Option (Option Nat)
  | _, 0 => some none
  | i, n + 1 =>
    match b.pairs[i]? with
    | none => none
    | some p =>
      if keyMin ≤ p.key ∧ p.key ≤ keyMax then some (some i) else scanBucket b keyMin keyMax (i + 1) n

/-- `get_next(iterator, TRUE)`, with its recursion to the next bucket bounded by `fuel`. Moving
on, it sets `cache.end` from the bucket it leaves and only then reads the next one. -/
def getNextFrom (keyMin keyMax : Nat) :
    Nat → Tree → Iterator → IterationCache → Option (Next × Tree × Iterator × IterationCache)
  | 0, _, _, _ => none
  | fuel + 1, t, it, cache => do
    match ← scanBucket cache.bucket keyMin keyMax cache.start (cache.stop - cache.start) with
    | some i =>
      let found := it.foundItems + 1
      let p ← cache.bucket.pairs[i]?
      pure (.tuple p.value, t, { it with foundItems := found, nextItemNo := found },
        { cache with start := i + 1 })
    | none =>
      let t := t.setLock cache.bucketId false
      let finished := { it with nextItemNo := if it.foundItems = 0 then 0 else 1 }
      match nextBucket cache.bucket with
      | none => pure (.invalid, t, finished, { cache with bucketId := 2 ^ 16 - 1 })
      | some next =>
        -- the spin on a held lock never ends when nobody else runs
        if t.lockBuckets next then none
        let t := t.setLock next true
        let stop := cache.bucket.nextFreeSlot
        let bucket ← t.buckets next
        let cache : IterationCache := ⟨next, bucket, 0, stop⟩
        if keyMax < bucket.info1 then pure (.invalid, t, finished, cache)
        else getNextFrom keyMin keyMax fuel t { it with nextItemNo := 1 } cache

/-- `get_next(iterator, TRUE)`: a fresh iterator first finds the bucket of its lower bound. -/
def getNext (t : Tree) (it : Iterator) (cache : IterationCache) :
    Option (Next × Tree × Iterator × IterationCache) := do
  let keyMin := it.minValue % 2 ^ 16
  let keyMax := it.maxValue % 2 ^ 16
  if it.nextItemNo = 0 ∧ it.foundItems = 0 then
    match ← treeFind t keyMin with
    | none => pure (.invalid, t, it, cache)
    | some (path, t) =>
      let bucketId := path.bucket t
      let bucket ← t.buckets bucketId
      getNextFrom keyMin keyMax (bucketsLimit + 1) t it ⟨bucketId, bucket, 0, bucket.nextFreeSlot⟩
  else getNextFrom keyMin keyMax (bucketsLimit + 1) t it cache

/-- A query driven by `get_next(iterator, TRUE)` until it returns `INVALID_TUPLE`: the tuple ids
in the order they came. -/
def collect : Nat → Tree → Iterator → IterationCache → Option (List Nat)
  | 0, _, _, _ => none
  | fuel + 1, t, it, cache => do
    match ← getNext t it cache with
    | (.invalid, _, _, _) => pure []
    | (.tuple tid, t, it, cache) => (tid :: ·) <$> collect fuel t it cache

/-- The inserts of a list of key/tuple pairs, with the result of each. -/
def insertAll : Tree → List (Nat × Nat) → Option (List DbResult × Tree)
  | t, [] => some ([], t)
  | t, (key, value) :: rest => do
    let (res, t) ← insert t key value
    let (results, t) ← insertAll t rest
    pure (res :: results, t)

def IterationCache.zero : IterationCache := ⟨0, ⟨[], 0, 0, 0⟩, 0, 0⟩

/-- The query over `[lo, hi]` of a fresh iterator on the index built by the inserts. -/
def query (inserts : List (Nat × Nat)) (lo hi : Nat) : Option (List DbResult × List Nat) := do
  let (results, t) ← insertAll create inserts
  let tids ← collect (bucketsLimit * bucketSize + 2) t ⟨lo, hi, 0, 0⟩ IterationCache.zero
  pure (results, tids)

/-- The index while all its pairs are still in bucket 0: the root leaf of `create`, and the
pairs in the order they came, with their least and greatest key. -/
def singleBucket (ps : List Pair) : Tree :=
  { create with
    buckets := Function.update (fun _ => none) 0 (some ⟨ps, bucketsLimit - 1,
      ps.foldl (fun m p => min m p.key) keyMax, ps.foldl (fun m p => max m p.key) 0⟩)
    inserted := ps.length }

theorem create_eq_singleBucket : create = singleBucket [] := rfl

theorem insert_singleBucket {ps : List Pair} {key value : Nat} (low : key ≤ keyMax)
    (small : value < 2 ^ 16) (room : ps.length < bucketSize) :
    insert (singleBucket ps) key value = some (.ok, singleBucket (ps ++ [⟨key, value⟩])) := by
  have key16 : key % 2 ^ 16 = key := Nat.mod_eq_of_lt (by unfold keyMax at low; omega)
  have value16 : value % 2 ^ 16 = value := Nat.mod_eq_of_lt small
  have routed : (TreeNode.mk [keyMax] [0, bucketsLimit - 1] true).route key = 0 := by
    simp [TreeNode.route, List.findIdx_cons, low]
  have notFull : ps.length ≠ bucketSize := Nat.ne_of_lt room
  simp only [insert, insertItemBtree, treeFind, treeFindFrom, singleBucket, create, key16,
    value16, Function.update_self, routed]
  simp [Tree.setLock, Path.bucket, Bucket.nextFreeSlot, cacheBucketAppend, Tree.setBucket,
    notFull, Nat.not_le.mpr room, Function.update_idem, List.foldl_append]

theorem insertAll_singleBucket {ps : List Pair} {inserts : List (Nat × Nat)}
    (keys : ∀ q ∈ inserts, q.1 ≤ keyMax ∧ q.2 < 2 ^ 16)
    (room : ps.length + inserts.length ≤ bucketSize) :
    insertAll (singleBucket ps) inserts = some (List.replicate inserts.length .ok,
      singleBucket (ps ++ inserts.map fun q => ⟨q.1, q.2⟩)) := by
  induction inserts generalizing ps with
  | nil => simp [insertAll]
  | cons q rest ih =>
    obtain ⟨low, small⟩ := keys q List.mem_cons_self
    simp only [List.length_cons] at room
    have later : insertAll (singleBucket (ps ++ [⟨q.1, q.2⟩])) rest = _ :=
      ih (fun r mem => keys r (List.mem_cons_of_mem q mem)) (by simp; omega)
    rw [insertAll, insert_singleBucket low small (by omega)]
    simp [later, List.replicate_succ]

theorem insertAll_append (t : Tree) (xs ys : List (Nat × Nat)) :
    insertAll t (xs ++ ys) = (insertAll t xs).bind fun (r, t) =>
      (insertAll t ys).map fun (r', t) => (r ++ r', t) := by
  induction xs generalizing t with
  | nil => cases insertAll t ys <;> simp [insertAll, *]
  | cons q xs ih =>
    obtain ⟨key, value⟩ := q
    cases step : insert t key value with
    | none => simp [insertAll, step]
    | some r =>
      obtain ⟨res, t'⟩ := r
      simp [insertAll, step, ih, Option.bind_assoc]
      -- both sides insert `xs` first; what follows differs only in where the results go
      apply congrArg (Option.bind (insertAll t' xs))
      funext a
      cases insertAll a.2 ys <;> simp

/-- The keys 1 to 49, each the id of its tuple, inserted into a fresh index, and a fresh
iterator over `[1, 49]`. Every insert returns `DB_OK`. The 49th fills bucket 0, which is split
into 24 pairs and a new bucket of 25, chained after it. The query reads bucket 0, moves on with
`cache.end` still 24, and so reads only 24 of the new bucket's 25 pairs: tuple 49 is never
returned. -/
theorem get_next_misses_tuples :
    query ((List.range 49).map fun k => (k + 1, k + 1)) 1 49 =
      some (List.replicate 49 .ok, (List.range 48).map (· + 1)) := by
  have first48 : insertAll (singleBucket [])
      ((List.range 48).map fun k => (k + 1, k + 1)) = _ :=
    insertAll_singleBucket (by decide) (by decide)
  have last : (List.range 49).map (fun k => (k + 1, k + 1)) =
      (List.range 48).map (fun k => (k + 1, k + 1)) ++ [(49, 49)] := by
    simp [List.range_succ]
  rw [query, last, insertAll_append, create_eq_singleBucket, first48]
  decide +kernel

/-- The keys 1 to 48, each the id of its tuple, fill bucket 0 of a fresh index. The 49th insert
splits the bucket and returns `TREE_OK`, yet `tree->inserted` stays 48: only the path that
appends to a bucket with room counts the pair. -/
theorem insert_split_keeps_inserted :
    insertAll create ((List.range 48).map fun k => (k + 1, k + 1)) =
        some (List.replicate 48 .ok, singleBucket ((List.range 48).map fun k => ⟨k + 1, k + 1⟩)) ∧
      (singleBucket ((List.range 48).map fun k => ⟨k + 1, k + 1⟩)).inserted = 48 ∧
      (insertItemBtree (singleBucket ((List.range 48).map fun k => ⟨k + 1, k + 1⟩)) 49 49).map
        (fun r => (r.1, r.2.inserted)) = some (.ok, 48) := by
  have first48 : insertAll (singleBucket [])
      ((List.range 48).map fun k => (k + 1, k + 1)) = _ :=
    insertAll_singleBucket (by decide) (by decide)
  refine ⟨?_, rfl, by decide +kernel⟩
  rw [create_eq_singleBucket, first48]
  simp [List.map_map, Function.comp_def]

end TinyAra.Arastorage.Bplustree
