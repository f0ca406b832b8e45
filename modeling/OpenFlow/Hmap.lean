import Mathlib
import OpenFlow.Execute
import OpenFlow.Lib.Bits
import OpenFlow.Lib.Search
import OpenFlow.Lib.Chain

/-! lib/hmap.c and lib/hmap.h: a hash map whose buckets hold singly linked chains of nodes that the client
embeds in its own structures. -/
namespace OpenFlow.HashMap
open Linked Search

inductive Slot (ι : Type) where
  | map (i : ι)
  | tmp
  deriving DecidableEq

/- hmap->buckets: the `one` embedded in some slot's hmap, or heap array `k`. -/
inductive Buckets (ι : Type) where
  | one (s : Slot ι)
  | array (k : Nat)
  deriving DecidableEq

structure Hmap (ι ν : Type) where
  buckets : Buckets ι
  one : Option ν
  mask : UInt64
  n : Nat

structure World (ι ν : Type) where
  hash : ν → UInt64
  next : ν → Option ν
  arrays : Nat → Nat → Option ν
  brk : Nat
  maps : Slot ι → Hmap ι ν

/- The memory cell of one bucket pointer. -/
inductive Cell (ι : Type) where
  | one (s : Slot ι)
  | slot (k b : Nat)
  deriving DecidableEq

/- SIZE_MAX on a 64-bit host. -/
def sizeMax : UInt64 := 18446744073709551615

variable {ι ν : Type} [DecidableEq ι]

namespace World

def setMap (w : World ι ν) (s : Slot ι) (h : Hmap ι ν) : World ι ν := { w with maps := Function.update w.maps s h }

/- &hmap->buckets[b]. -/
def cell (w : World ι ν) (s : Slot ι) (b : Nat) : Cell ι :=
  match (w.maps s).buckets with
  | .one t => .one t
  | .array k => .slot k b

def read (w : World ι ν) : Cell ι → Option ν
  | .one t => (w.maps t).one
  | .slot k b => w.arrays k b

def write (w : World ι ν) : Cell ι → Option ν → World ι ν
  | .one t, node => w.setMap t { w.maps t with one := node }
  | .slot k b, node => { w with arrays := Function.update w.arrays k (Function.update (w.arrays k) b node) }

/- hmap->buckets[b] -/
def bucketAt (w : World ι ν) (s : Slot ι) (b : Nat) : Option ν := w.read (w.cell s b)

def setBucket (w : World ι ν) (s : Slot ι) (b : Nat) (node : Option ν) : World ι ν := w.write (w.cell s b) node

@[simp] theorem setMapMaps (w : World ι ν) (s t : Slot ι) (h : Hmap ι ν) :
    (w.setMap s h).maps t = if t = s then h else w.maps t := by
  simp only [setMap,Function.update_apply]

theorem setMapSame (w : World ι ν) (s : Slot ι) : w.setMap s (w.maps s) = w := by
  cases w
  simp [setMap]

@[simp] theorem setMapHash (w : World ι ν) (s : Slot ι) (h : Hmap ι ν) : (w.setMap s h).hash = w.hash := rfl
@[simp] theorem setMapNext (w : World ι ν) (s : Slot ι) (h : Hmap ι ν) : (w.setMap s h).next = w.next := rfl
@[simp] theorem setMapArrays (w : World ι ν) (s : Slot ι) (h : Hmap ι ν) : (w.setMap s h).arrays = w.arrays := rfl
@[simp] theorem setMapBrk (w : World ι ν) (s : Slot ι) (h : Hmap ι ν) : (w.setMap s h).brk = w.brk := rfl

/- A bucket write changes the `one` of at most one map and nothing else of any map. -/
@[simp] theorem writeBuckets (w : World ι ν) (c : Cell ι) (x : Option ν) (t : Slot ι) :
    ((w.write c x).maps t).buckets = (w.maps t).buckets := by
  cases c with
  | one u => by_cases same : t = u <;> simp [write,same]
  | slot k b => rfl

@[simp] theorem writeMask (w : World ι ν) (c : Cell ι) (x : Option ν) (t : Slot ι) :
    ((w.write c x).maps t).mask = (w.maps t).mask := by
  cases c with
  | one u => by_cases same : t = u <;> simp [write,same]
  | slot k b => rfl

@[simp] theorem writeN (w : World ι ν) (c : Cell ι) (x : Option ν) (t : Slot ι) :
    ((w.write c x).maps t).n = (w.maps t).n := by
  cases c with
  | one u => by_cases same : t = u <;> simp [write,same]
  | slot k b => rfl

@[simp] theorem writeHash (w : World ι ν) (c : Cell ι) (x : Option ν) : (w.write c x).hash = w.hash := by
  cases c <;> rfl

@[simp] theorem writeNext (w : World ι ν) (c : Cell ι) (x : Option ν) : (w.write c x).next = w.next := by
  cases c <;> rfl

@[simp] theorem writeBrk (w : World ι ν) (c : Cell ι) (x : Option ν) : (w.write c x).brk = w.brk := by
  cases c <;> rfl

omit [DecidableEq ι] in
theorem cellCongr {w' w : World ι ν} {s : Slot ι} (same : (w'.maps s).buckets = (w.maps s).buckets) (b : Nat) :
    w'.cell s b = w.cell s b := by
  simp only [cell,same]

@[simp] theorem cellWrite (w : World ι ν) (c : Cell ι) (x : Option ν) (s : Slot ι) (b : Nat) :
    (w.write c x).cell s b = w.cell s b :=
  cellCongr (writeBuckets w c x s) b

theorem readWrite (w : World ι ν) (c c' : Cell ι) (x : Option ν) :
    (w.write c x).read c' = if c' = c then x else w.read c' := by
  cases c <;> cases c' <;> simp [write,read,Function.update_apply] <;> split_ifs <;> simp_all

theorem bucketAtSetBucket (w : World ι ν) (s t : Slot ι) (b b' : Nat) (x : Option ν) :
    (w.setBucket s b x).bucketAt t b' = if w.cell t b' = w.cell s b then x else w.bucketAt t b' := by
  rw [bucketAt,setBucket,cellWrite,readWrite,bucketAt]

theorem bucketAtSetMap {w : World ι ν} {s : Slot ι} {h : Hmap ι ν} (buckets : h.buckets = (w.maps s).buckets)
    (one : h.one = (w.maps s).one) (t : Slot ι) (b : Nat) : (w.setMap s h).bucketAt t b = w.bucketAt t b := by
  have cells : (w.setMap s h).cell t b = w.cell t b :=
    cellCongr (by by_cases same : t = s <;> simp [same,buckets]) b
  rw [bucketAt,cells,bucketAt]
  cases w.cell t b with
  | one u => by_cases same : u = s <;> simp [World.read,same,one]
  | slot k b => rfl

@[simp] theorem bucketAtSetN (w : World ι ν) (s t : Slot ι) (k b : Nat) :
    (w.setMap s { w.maps s with n := k }).bucketAt t b = w.bucketAt t b := by
  rw [bucketAtSetMap]
  all_goals rfl

section SetBucket
variable (w : World ι ν) (s t : Slot ι) (b : Nat) (x : Option ν)

@[simp] theorem setBucketHash : (w.setBucket s b x).hash = w.hash := writeHash ..
@[simp] theorem setBucketNext : (w.setBucket s b x).next = w.next := writeNext ..
@[simp] theorem setBucketBrk : (w.setBucket s b x).brk = w.brk := writeBrk ..
@[simp] theorem setBucketBuckets : ((w.setBucket s b x).maps t).buckets = (w.maps t).buckets := writeBuckets ..
@[simp] theorem setBucketMask : ((w.setBucket s b x).maps t).mask = (w.maps t).mask := writeMask ..
@[simp] theorem setBucketN : ((w.setBucket s b x).maps t).n = (w.maps t).n := writeN ..

end SetBucket

end World

/- hmap_init -/
def hmapInit (w : World ι ν) (s : Slot ι) : World ι ν := w.setMap s ⟨.one s,none,0,0⟩

/- hmap_destroy frees a heap array, which nothing reads again. -/
def hmapDestroy (w : World ι ν) (_s : Slot ι) : World ι ν := w

/- hmap_swap: the two structs trade places, and a map that now points at the other's `one` is pointed at its
own. -/
def hmapSwap (w : World ι ν) (a b : Slot ι) : World ι ν :=
  let tmp := w.maps a
  let w := w.setMap a (w.maps b)
  let w := w.setMap b tmp
  let w := if (w.maps a).buckets = .one b then w.setMap a { w.maps a with buckets := .one a } else w
  if (w.maps b).buckets = .one a then w.setMap b { w.maps b with buckets := .one b } else w

section Nodes
variable [DecidableEq ν]

/- hmap_insert_fast -/
def hmapInsertFast (w : World ι ν) (s : Slot ι) (node : ν) (hash : UInt64) : World ι ν :=
  let bucket := (hash &&& (w.maps s).mask).toNat
  let w' := { w with hash := Function.update w.hash node hash,
                     next := Function.update w.next node (w.bucketAt s bucket) }
  let w' := w'.setBucket s bucket (some node)
  w'.setMap s { w'.maps s with n := (w'.maps s).n + 1 }

section InsertFast
variable (w : World ι ν) (s t : Slot ι) (node : ν) (hash : UInt64)
open World

@[simp] theorem insertFastHash : (hmapInsertFast w s node hash).hash = Function.update w.hash node hash := by
  simp [hmapInsertFast,setBucket]

@[simp] theorem insertFastNext :
    (hmapInsertFast w s node hash).next =
      Function.update w.next node (w.bucketAt s (hash &&& (w.maps s).mask).toNat) := by
  simp [hmapInsertFast,setBucket]

@[simp] theorem insertFastBrk : (hmapInsertFast w s node hash).brk = w.brk := by
  simp [hmapInsertFast,setBucket]

@[simp] theorem insertFastBuckets : ((hmapInsertFast w s node hash).maps t).buckets = (w.maps t).buckets := by
  by_cases same : t = s <;> simp [hmapInsertFast,setBucket,same]

@[simp] theorem insertFastMask : ((hmapInsertFast w s node hash).maps t).mask = (w.maps t).mask := by
  by_cases same : t = s <;> simp [hmapInsertFast,setBucket,same]

theorem insertFastN :
    ((hmapInsertFast w s node hash).maps t).n = if t = s then (w.maps s).n + 1 else (w.maps t).n := by
  by_cases same : t = s <;> simp [hmapInsertFast,setBucket,same]

@[simp] theorem insertFastCell (b : Nat) : (hmapInsertFast w s node hash).cell t b = w.cell t b :=
  cellCongr (insertFastBuckets w s t node hash) b

theorem insertFastBucketAt (b : Nat) :
    (hmapInsertFast w s node hash).bucketAt t b =
      if w.cell t b = w.cell s (hash &&& (w.maps s).mask).toNat then some node else w.bucketAt t b := by
  rw [hmapInsertFast,bucketAtSetMap,bucketAtSetBucket]
  all_goals rfl

end InsertFast

/- calc_mask on a 64-bit size_t. -/
def calcMask (capacity : UInt64) : UInt64 :=
  let mask := capacity / 2
  let mask := mask ||| mask >>> 1
  let mask := mask ||| mask >>> 2
  let mask := mask ||| mask >>> 4
  let mask := mask ||| mask >>> 8
  let mask := mask ||| mask >>> 16
  let mask := mask ||| mask >>> 32
  mask ||| (mask &&& 1) <<< 1

/- The inner loop of resize: each node of one chain goes into `tmp`, its successor read before the insertion
overwrites it. -/
def moveChain (w : World ι ν) : Option ν → Nat → Except Halt (World ι ν)
  | none, _ => pure w
  | some _, 0 => .error .outOfFuel
  | some node, fuel + 1 =>
    let next := w.next node
    moveChain (hmapInsertFast w .tmp node (w.hash node)) next fuel

/- The outer loop of resize, over buckets 0 to hmap->mask; no chain is longer than hmap->n. -/
def moveNodes (w : World ι ν) (s : Slot ι) : Except Halt (World ι ν) :=
  (List.range ((w.maps s).mask.toNat + 1)).foldlM (fun w i => moveChain w (w.bucketAt s i) (w.maps s).n) w

/- xmalloc: malloc(size ? size : 1), and out_of_memory() when malloc returns NULL; `mallocMax` is the largest
block malloc hands out. -/
def xmalloc (mallocMax : Nat) (size : UInt64) : Except Halt Unit :=
  if mallocMax < max size.toNat 1 then throw .outOfMemory else pure ()

/- tmp.buckets = xmalloc(sizeof *tmp.buckets * (new_mask + 1)), a size_t product, with every bucket then set
to NULL, and tmp.mask = new_mask. -/
def newBuckets (mallocMax : Nat) (w : World ι ν) (newMask : UInt64) : Except Halt (World ι ν) := do
  let size := 8 * (newMask + 1)
  xmalloc mallocMax size
  if size.toNat < 8 * (newMask.toNat + 1) then throw .outOfBounds
  let k := w.brk
  let w := { w with arrays := Function.update w.arrays k fun _ => none, brk := k + 1 }
  pure (w.setMap .tmp { w.maps .tmp with buckets := .array k, mask := newMask })

/- resize -/
def resize (mallocMax : Nat) (w : World ι ν) (s : Slot ι) (newMask : UInt64) : Except Halt (World ι ν) := do
  if newMask &&& (newMask + 1) ≠ 0 then throw .assertFailed
  if newMask = sizeMax then throw .assertFailed
  let w := hmapInit w .tmp
  let w ← if newMask ≠ 0 then newBuckets mallocMax w newMask else pure w
  let w ← moveNodes w s
  pure (hmapDestroy (hmapSwap w s .tmp) .tmp)

/- hmap_expand -/
def hmapExpand (mallocMax : Nat) (w : World ι ν) (s : Slot ι) : Except Halt (World ι ν) :=
  let newMask := calcMask (w.maps s).n.toUInt64
  if newMask > (w.maps s).mask then resize mallocMax w s newMask else pure w

/- hmap_shrink -/
def hmapShrink (mallocMax : Nat) (w : World ι ν) (s : Slot ι) : Except Halt (World ι ν) :=
  let newMask := calcMask (w.maps s).n.toUInt64
  if newMask < (w.maps s).mask then resize mallocMax w s newMask else pure w

/- hmap_reserve -/
def hmapReserve (mallocMax : Nat) (w : World ι ν) (s : Slot ι) (n : UInt64) : Except Halt (World ι ν) :=
  let newMask := calcMask n
  if newMask > (w.maps s).mask then resize mallocMax w s newMask else pure w

/- hmap_insert -/
def hmapInsert (mallocMax : Nat) (w : World ι ν) (s : Slot ι) (node : ν) (hash : UInt64) : Except Halt (World ι ν) :=
  let w := hmapInsertFast w s node hash
  if (w.maps s).n / 2 > (w.maps s).mask.toNat then hmapExpand mallocMax w s else pure w

/- A pointer to a node pointer: a bucket, or the `next` field of a node. -/
inductive Link (ι ν : Type) where
  | bucket (s : Slot ι) (b : Nat)
  | next (node : ν)

def World.linkAt (w : World ι ν) : Link ι ν → Option ν
  | .bucket s b => w.bucketAt s b
  | .next node => w.next node

def World.setLink (w : World ι ν) : Link ι ν → Option ν → World ι ν
  | .bucket s b, node => w.setBucket s b node
  | .next p, node => { w with next := Function.update w.next p node }

/- The loop of hmap_remove: follow the links from the bucket until one points at `node`; a null link is
dereferenced on the next round. -/
def findLink (w : World ι ν) (node : ν) : Link ι ν → Nat → Except Halt (Link ι ν)
  | _, 0 => .error .outOfFuel
  | link, fuel + 1 =>
    match w.linkAt link with
    | none => .error .nullDeref
    | some v => if v = node then pure link else findLink w node (.next v) fuel

/- hmap_remove -/
def hmapRemove (w : World ι ν) (s : Slot ι) (node : ν) : Except Halt (World ι ν) := do
  let bucket ← findLink w node (.bucket s (w.hash node &&& (w.maps s).mask).toNat) (w.maps s).n
  let w := w.setLink bucket (w.next node)
  pure (w.setMap s { w.maps s with n := (w.maps s).n - 1 })

end Nodes

/- The operations a client applies to its maps. -/
inductive HmapOp (ι ν : Type) where
  | insert (i : ι) (node : ν) (hash : UInt64)
  | insertFast (i : ι) (node : ν) (hash : UInt64)
  | remove (i : ι) (node : ν)
  | expand (i : ι)
  | shrink (i : ι)
  | reserve (i : ι) (n : UInt64)
  | swap (i j : ι)

def hmapStep [DecidableEq ν] (mallocMax : Nat) (w : World ι ν) : HmapOp ι ν → Except Halt (World ι ν)
  | .insert i node hash => hmapInsert mallocMax w (.map i) node hash
  | .insertFast i node hash => pure (hmapInsertFast w (.map i) node hash)
  | .remove i node => hmapRemove w (.map i) node
  | .expand i => hmapExpand mallocMax w (.map i)
  | .shrink i => hmapShrink mallocMax w (.map i)
  | .reserve i n => hmapReserve mallocMax w (.map i) n
  | .swap i j => pure (hmapSwap w (.map i) (.map j))

/- The client's maps, each freshly initialised. -/
def World.start (w : World ι ν) : World ι ν := { w with maps := fun s => ⟨.one s,none,0,0⟩ }

end OpenFlow.HashMap
