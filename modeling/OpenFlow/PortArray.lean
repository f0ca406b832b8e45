import Mathlib
import OpenFlow.Execute
import OpenFlow.Lib.Search
import OpenFlow.Lib.Simulation

/-! lib/port-array.c: a three-level trie over the 2^16 port numbers. -/
namespace OpenFlow.PortArray
open Search

def portArrayL1Bits : Nat := 5
def portArrayL2Bits : Nat := 5
def portArrayL3Bits : Nat := 6
def portArrayL3Shift : Nat := 0
def portArrayL2Shift : Nat := portArrayL3Bits
def portArrayL1Shift : Nat := portArrayL3Bits + portArrayL2Bits
def portArrayL1Size : Nat := 1 <<< portArrayL1Bits
def portArrayL2Size : Nat := 1 <<< portArrayL2Bits
def portArrayL3Size : Nat := 1 <<< portArrayL3Bits
def portArraySize : Nat := 1 <<< (portArrayL1Bits + portArrayL2Bits + portArrayL3Bits)

/- port_array_extract_bits__: `count` bits of `data` from bit `start` on. -/
def portArrayExtractBits (data : UInt16) (start count : Nat) : Nat := (data.toNat >>> start) &&& ((1 <<< count) - 1)

def portArrayL1 (idx : UInt16) : Nat := portArrayExtractBits idx portArrayL1Shift portArrayL1Bits
def portArrayL2 (idx : UInt16) : Nat := portArrayExtractBits idx portArrayL2Shift portArrayL2Bits
def portArrayL3 (idx : UInt16) : Nat := portArrayExtractBits idx portArrayL3Shift portArrayL3Bits

/- &l2_sentinel and &l3_sentinel. -/
def l2Sentinel : Nat := 0
def l3Sentinel : Nat := 0

/- The level-2 nodes (arrays of level-3 node addresses), the level-3 nodes (arrays of element pointers) and
the next address `xmemdup` returns. -/
structure Heap (α : Type) where
  l2 : Nat → Nat → Nat
  l3 : Nat → Nat → Option α
  brk : Nat

/- The heap, the static `inited` flag and the level-1 array of each instance. -/
structure World (ι α : Type) where
  heap : Heap α
  inited : Bool
  arrays : ι → Option (Nat → Nat)

variable {ι α : Type} [DecidableEq ι]

/- xmemdup(&l2_sentinel, sizeof l2_sentinel). -/
def Heap.dupL2 (heap : Heap α) : Heap α × Nat :=
  ({ heap with l2 := Function.update heap.l2 heap.brk (heap.l2 l2Sentinel), brk := heap.brk + 1 },heap.brk)

/- xmemdup(&l3_sentinel, sizeof l3_sentinel). -/
def Heap.dupL3 (heap : Heap α) : Heap α × Nat :=
  ({ heap with l3 := Function.update heap.l3 heap.brk (heap.l3 l3Sentinel), brk := heap.brk + 1 },heap.brk)

def portArrayInit (w : World ι α) (pa : ι) : World ι α :=
  let w := if !w.inited then
      { w with inited := true, heap := { w.heap with l2 := Function.update w.heap.l2 l2Sentinel fun _ => l3Sentinel } }
    else w
  { w with arrays := Function.update w.arrays pa (some fun _ => l2Sentinel) }

/- port_array_destroy reads the instance's nodes to free them. -/
def portArrayDestroy (w : World ι α) (pa : ι) : Except Halt (World ι α) :=
  match w.arrays pa with
  | none => .error .nullDeref
  | some _ => pure w

def portArrayClear (w : World ι α) (pa : ι) : Except Halt (World ι α) := do
  let w ← portArrayDestroy w pa
  pure (portArrayInit w pa)

/- Level 1 of port_array_set: `l1[i1]`, copied from l2_sentinel first if it is the sentinel. -/
def traverseL1 (heap : Heap α) (l1 : Nat → Nat) (i1 : Nat) : Heap α × (Nat → Nat) :=
  if l1 i1 = l2Sentinel then
    let dup := heap.dupL2
    (dup.1,Function.update l1 i1 dup.2)
  else (heap,l1)

/- Level 2: entry `i2` of the level-2 node `l2`, copied from l3_sentinel first if it is the sentinel. -/
def traverseL2 (heap : Heap α) (l2 i2 : Nat) : Heap α :=
  if heap.l2 l2 i2 = l3Sentinel then
    let dup := heap.dupL3
    { dup.1 with l2 := Function.update dup.1.l2 l2 (Function.update (dup.1.l2 l2) i2 dup.2) }
  else heap

/- Level 3: `l3->l3[i3] = p`. -/
def Heap.setL3 (heap : Heap α) (l3 i3 : Nat) (p : Option α) : Heap α :=
  { heap with l3 := Function.update heap.l3 l3 (Function.update (heap.l3 l3) i3 p) }

def portArraySet (w : World ι α) (pa : ι) (idx : UInt16) (p : Option α) : Except Halt (World ι α) :=
  match w.arrays pa with
  | none => .error .nullDeref
  | some l1 =>
    let level1 := traverseL1 w.heap l1 (portArrayL1 idx)
    let l2 := level1.2 (portArrayL1 idx)
    let heap := traverseL2 level1.1 l2 (portArrayL2 idx)
    let l3 := heap.l2 l2 (portArrayL2 idx)
    pure { w with heap := heap.setL3 l3 (portArrayL3 idx) p, arrays := Function.update w.arrays pa (some level1.2) }

/- The element behind the three indices of a level-1 array. -/
def Heap.read (heap : Heap α) (l1 : Nat → Nat) (i1 i2 i3 : Nat) : Option α := heap.l3 (heap.l2 (l1 i1) i2) i3

def portArrayGet (w : World ι α) (pa : ι) (idx : UInt16) : Except Halt (Option α) :=
  match w.arrays pa with
  | none => .error .nullDeref
  | some l1 => pure (w.heap.read l1 (portArrayL1 idx) (portArrayL2 idx) (portArrayL3 idx))

/-! The loops of `next`, one function each. -/

/- The loop over `l2_idx` in one level-2 node: the indices and the element it stops at. -/
def scanL2 (heap : Heap α) (l2 : Nat) : Nat → Nat → Nat → Option (Nat × Nat × α)
  | _, _, 0 => none
  | l2Idx, l3Idx, n + 1 =>
    let l3 := heap.l2 l2 l2Idx
    let found := if l3 ≠ l3Sentinel then first (heap.l3 l3) l3Idx (portArrayL3Size - l3Idx) else none
    match found with
    | some hit => some (l2Idx,hit)
    | none => scanL2 heap l2 (l2Idx + 1) 0 n

/- The loop over `l1_idx`; an inner loop that finds nothing restarts at index 0. -/
def scanL1 (heap : Heap α) (l1 : Nat → Nat) : Nat → Nat → Nat → Nat → Option (Nat × Nat × Nat × α)
  | _, _, _, 0 => none
  | l1Idx, l2Idx, l3Idx, n + 1 =>
    let l2 := l1 l1Idx
    let found := if l2 ≠ l2Sentinel then scanL2 heap l2 l2Idx l3Idx (portArrayL2Size - l2Idx) else none
    match found with
    | some hit => some (l1Idx,hit)
    | none => scanL1 heap l1 (l1Idx + 1) 0 0 n

/- next: the element it returns and what it leaves in `*idxp`. -/
def next (heap : Heap α) (l1 : Nat → Nat) (idx : UInt32) : Option α × UInt32 :=
  let l1Idx := idx.toNat >>> portArrayL1Shift
  match scanL1 heap l1 l1Idx (portArrayL2 idx.toUInt16) (portArrayL3 idx.toUInt16) (portArrayL1Size - l1Idx) with
  | some (l1Idx,l2Idx,l3Idx,p) =>
    (some p,((l1Idx <<< portArrayL1Shift) ||| (l2Idx <<< portArrayL2Shift) ||| (l3Idx <<< portArrayL3Shift)).toUInt32)
  | none => (none,portArraySize.toUInt32)

def portArrayFirst (w : World ι α) (pa : ι) : Except Halt (Option α × UInt32) :=
  match w.arrays pa with
  | none => .error .nullDeref
  | some l1 => pure (next w.heap l1 0)

def portArrayNext (w : World ι α) (pa : ι) (idx : UInt32) : Except Halt (Option α × UInt32) :=
  match w.arrays pa with
  | none => .error .nullDeref
  | some l1 => pure (next w.heap l1 (idx + 1))

/- The loop port-watcher.c runs over a port_array, `for (p = port_array_first(pa, &idx); p; p =
port_array_next(pa, &idx))`: the indices and elements it visits and the index it ends with. -/
def portArrayVisit (w : World ι α) (pa : ι) : Nat → Option α × UInt32 → Except Halt (List (UInt32 × α) × UInt32)
  | _, (none,idx) => pure ([],idx)
  | 0, (some _,_) => .error .outOfFuel
  | fuel + 1, (some p,idx) => do
    let r ← portArrayNext w pa idx
    let rest ← portArrayVisit w pa fuel r
    pure ((idx,p) :: rest.1,rest.2)

def portArrayForEach (w : World ι α) (pa : ι) : Except Halt (List (UInt32 × α) × UInt32) := do
  let r ← portArrayFirst w pa
  portArrayVisit w pa portArraySize r

/-- The operations a client makes on its instances. -/
inductive PaOp (ι α : Type) where
  | init (pa : ι)
  | clear (pa : ι)
  | set (pa : ι) (idx : UInt16) (p : Option α)

/- The instance an operation is on. -/
def PaOp.target : PaOp ι α → ι
  | .init pa => pa
  | .clear pa => pa
  | .set pa _ _ => pa

def portArrayStep (w : World ι α) : PaOp ι α → Except Halt (World ι α)
  | .init pa => pure (portArrayInit w pa)
  | .clear pa => portArrayClear w pa
  | .set pa idx p => portArraySet w pa idx p

/-! What a port_array is for: a map from each of the 2^16 indices to an element or null, all null after init
and clear, one map per instance. -/

abbrev PaMap (ι α : Type) := ι → Option (UInt16 → Option α)

namespace PaMap

def init (m : PaMap ι α) (pa : ι) : PaMap ι α := Function.update m pa (some fun _ => none)

def step (m : PaMap ι α) : PaOp ι α → Except Halt (PaMap ι α)
  | .init pa => pure (m.init pa)
  | .clear pa =>
    match m pa with
    | none => .error .nullDeref
    | some _ => pure (m.init pa)
  | .set pa idx p =>
    match m pa with
    | none => .error .nullDeref
    | some vals => pure (Function.update m pa (some (Function.update vals idx p)))

def get (m : PaMap ι α) (pa : ι) (idx : UInt16) : Except Halt (Option α) :=
  match m pa with
  | none => .error .nullDeref
  | some vals => pure (vals idx)

end PaMap

/- What an instance holds, by the three indices of every element. -/
def World.reads (w : World ι α) (pa : ι) : Option (Nat → Nat → Nat → Option α) := (w.arrays pa).map w.heap.read

/- What an instance holds, by port number. -/
def World.view (w : World ι α) : PaMap ι α :=
  fun pa => (w.reads pa).map fun r idx => r (portArrayL1 idx) (portArrayL2 idx) (portArrayL3 idx)

section Layout

@[simp] theorem portArrayL1SizeEq : portArrayL1Size = 32 := rfl
@[simp] theorem portArrayL2SizeEq : portArrayL2Size = 32 := rfl
@[simp] theorem portArrayL3SizeEq : portArrayL3Size = 64 := rfl
@[simp] theorem portArraySizeEq : portArraySize = 65536 := rfl
@[simp] theorem portArrayL1ShiftEq : portArrayL1Shift = 11 := rfl
@[simp] theorem portArrayL2ShiftEq : portArrayL2Shift = 6 := rfl
@[simp] theorem portArrayL3ShiftEq : portArrayL3Shift = 0 := rfl

theorem extractBitsEq (data : UInt16) (start count : Nat) :
    portArrayExtractBits data start count = data.toNat / 2 ^ start % 2 ^ count := by
  simp [portArrayExtractBits,Nat.shiftRight_eq_div_pow,Nat.one_shiftLeft]

theorem portArrayL1Eq (idx : UInt16) : portArrayL1 idx = idx.toNat / 2048 := by
  have := UInt16.toNat_lt_size idx
  simp only [portArrayL1,extractBitsEq,portArrayL1ShiftEq,portArrayL1Bits]
  simp only [UInt16.size] at this
  omega

theorem portArrayL2Eq (idx : UInt16) : portArrayL2 idx = idx.toNat / 64 % 32 := by
  simp [portArrayL2,extractBitsEq,portArrayL2Bits]

theorem portArrayL3Eq (idx : UInt16) : portArrayL3 idx = idx.toNat % 64 := by
  simp [portArrayL3,extractBitsEq,portArrayL3Bits]

theorem indicesInjective {idx idx' : UInt16} (same1 : portArrayL1 idx = portArrayL1 idx')
    (same2 : portArrayL2 idx = portArrayL2 idx') (same3 : portArrayL3 idx = portArrayL3 idx') : idx = idx' := by
  rw [portArrayL1Eq,portArrayL1Eq] at same1
  rw [portArrayL2Eq,portArrayL2Eq] at same2
  rw [portArrayL3Eq,portArrayL3Eq] at same3
  apply UInt16.toNat_inj.mp
  omega

end Layout

/- The heap under every instance: the sentinels hold only the sentinel and null, no instance is set up before
the first init, every node an instance reaches was handed out, and a node other than a sentinel belongs to one
entry of one instance. -/
structure Sound (w : World ι α) : Prop where
  l3Clean : ∀ j, w.heap.l3 l3Sentinel j = none
  l2Clean : w.inited = true → ∀ j, w.heap.l2 l2Sentinel j = l3Sentinel
  initedFirst : ∀ {pa l1}, w.arrays pa = some l1 → w.inited = true
  brkPos : 0 < w.heap.brk
  l2Below : ∀ {pa l1}, w.arrays pa = some l1 → ∀ i, l1 i < w.heap.brk
  l3Below : ∀ {pa l1}, w.arrays pa = some l1 → ∀ i j, w.heap.l2 (l1 i) j < w.heap.brk
  l2Owned : ∀ {pa l1 pa' l1'}, w.arrays pa = some l1 → w.arrays pa' = some l1' → ∀ i i',
    l1 i = l1' i' → l1 i ≠ l2Sentinel → pa = pa' ∧ i = i'
  l3Owned : ∀ {pa l1 pa' l1'}, w.arrays pa = some l1 → w.arrays pa' = some l1' → ∀ i j i' j',
    w.heap.l2 (l1 i) j = w.heap.l2 (l1' i') j' → w.heap.l2 (l1 i) j ≠ l3Sentinel → pa = pa' ∧ i = i' ∧ j = j'

omit [DecidableEq ι] in
theorem Sound.sentinelRow {w : World ι α} (s : Sound w) {pa l1} (has : w.arrays pa = some l1) (j : Nat) :
    w.heap.l2 l2Sentinel j = l3Sentinel :=
  s.l2Clean (s.initedFirst has) j

theorem arraysUpdate {β : Type} {f : ι → Option β} {pa pa' : ι} {v x : β}
    (h : Function.update f pa (some v) pa' = some x) : (pa' = pa ∧ x = v) ∨ (pa' ≠ pa ∧ f pa' = some x) := by
  by_cases same : pa' = pa
  · subst same
    rw [Function.update_self] at h
    exact .inl ⟨rfl,(Option.some.inj h).symm⟩
  · rw [Function.update_of_ne same] at h
    exact .inr ⟨same,h⟩

section Init
variable {w : World ι α}

omit [DecidableEq ι] in
theorem markInitedSound (s : Sound w) (fresh : w.inited = false) :
    Sound { w with inited := true, heap := { w.heap with l2 := Function.update w.heap.l2 l2Sentinel fun _ => l3Sentinel } } := by
  have none : ∀ {pa l1}, w.arrays pa ≠ some l1 := fun has => by
    have := s.initedFirst has
    rw [fresh] at this
    cases this
  exact ⟨s.l3Clean,fun _ j => by simp,fun has => absurd has none,s.brkPos,fun has => absurd has none,
    fun has => absurd has none,fun has => absurd has none,fun has => absurd has none⟩

theorem addEmptySound (s : Sound w) (inited : w.inited = true) (pa : ι) :
    Sound { w with arrays := Function.update w.arrays pa (some fun _ => l2Sentinel) } := by
  have row : ∀ j, w.heap.l2 l2Sentinel j = l3Sentinel := s.l2Clean inited
  constructor
  · exact s.l3Clean
  · exact s.l2Clean
  · exact fun _ => inited
  · exact s.brkPos
  · intro pa' l1' has i
    rcases arraysUpdate has with ⟨-,rfl⟩ | ⟨-,old⟩
    · exact s.brkPos
    · exact s.l2Below old i
  · intro pa' l1' has i j
    rcases arraysUpdate has with ⟨-,rfl⟩ | ⟨-,old⟩
    · show w.heap.l2 l2Sentinel j < w.heap.brk
      rw [row]
      exact s.brkPos
    · exact s.l3Below old i j
  · intro pa₁ l₁ pa₂ l₂ has₁ has₂ i i' same owned
    rcases arraysUpdate has₁ with ⟨-,rfl⟩ | ⟨-,old₁⟩
    · exact absurd rfl owned
    rcases arraysUpdate has₂ with ⟨-,rfl⟩ | ⟨-,old₂⟩
    · exact absurd same owned
    exact s.l2Owned old₁ old₂ i i' same owned
  · intro pa₁ l₁ pa₂ l₂ has₁ has₂ i j i' j' same owned
    rcases arraysUpdate has₁ with ⟨-,rfl⟩ | ⟨-,old₁⟩
    · exact absurd (row j) owned
    rcases arraysUpdate has₂ with ⟨-,rfl⟩ | ⟨-,old₂⟩
    · exact absurd (same.trans (row j')) owned
    exact s.l3Owned old₁ old₂ i j i' j' same owned

theorem initSound (s : Sound w) (pa : ι) : Sound (portArrayInit w pa) := by
  unfold portArrayInit
  cases fresh : w.inited with
  | false => exact addEmptySound (markInitedSound s fresh) rfl pa
  | true => exact addEmptySound s fresh pa

theorem initReads (s : Sound w) (pa pa' : ι) :
    (portArrayInit w pa).reads pa' = if pa' = pa then some fun _ _ _ => none else w.reads pa' := by
  unfold portArrayInit
  by_cases same : pa' = pa
  · subst same
    cases fresh : w.inited with
    | false =>
      simp only [World.reads,Function.update_self,if_true,Option.map_some,Bool.not_false]
      congr 1
      funext i j k
      simp [Heap.read,s.l3Clean]
    | true =>
      simp only [World.reads,Function.update_self,if_true,Option.map_some,Bool.not_true,Bool.false_eq_true,if_false]
      congr 1
      funext i j k
      simp [Heap.read,s.l2Clean fresh,s.l3Clean]
  · cases fresh : w.inited with
    | false =>
      have unset : w.arrays pa' = none := by
        cases has : w.arrays pa' with
        | none => rfl
        | some l1 => simpa [fresh] using s.initedFirst has
      simp [World.reads,unset,same]
    | true => simp [World.reads,same]

end Init

section Set
variable {w : World ι α} {pa : ι} {l1 : Nat → Nat} {i1 : Nat}

theorem copyL2Entries (has : w.arrays pa = some l1) (sentinel : l1 i1 = l2Sentinel) {pa' l1'}
    (h : Function.update w.arrays pa (some (Function.update l1 i1 w.heap.brk)) pa' = some l1') :
    ∃ l1₀, w.arrays pa' = some l1₀ ∧ ∀ i, l1' i = l1₀ i ∨ (pa' = pa ∧ i = i1 ∧ l1' i = w.heap.brk ∧ l1₀ i = l2Sentinel) := by
  rcases arraysUpdate h with ⟨rfl,rfl⟩ | ⟨-,old⟩
  · refine ⟨l1,has,fun i => ?_⟩
    by_cases at1 : i = i1
    · subst at1
      exact .inr ⟨rfl,rfl,by simp,sentinel⟩
    · exact .inl (Function.update_of_ne at1 _ _)
  · exact ⟨l1',old,fun _ => .inl rfl⟩

omit [DecidableEq ι] in
theorem copyL2Rows (s : Sound w) {pa' : ι} {l1' l1₀ : Nat → Nat} (old : w.arrays pa' = some l1₀) {i : Nat}
    (entry : l1' i = l1₀ i ∨ (pa' = pa ∧ i = i1 ∧ l1' i = w.heap.brk ∧ l1₀ i = l2Sentinel)) :
    Function.update w.heap.l2 w.heap.brk (w.heap.l2 l2Sentinel) (l1' i) = w.heap.l2 (l1₀ i) := by
  rcases entry with kept | ⟨-,-,copied,was⟩
  · rw [kept,Function.update_of_ne (s.l2Below old i).ne]
  · rw [copied,was,Function.update_self]

theorem copyL2Sound (s : Sound w) (has : w.arrays pa = some l1) (sentinel : l1 i1 = l2Sentinel) :
    Sound { w with heap := w.heap.dupL2.1, arrays := Function.update w.arrays pa (some (Function.update l1 i1 w.heap.dupL2.2)) } := by
  simp only [Heap.dupL2]
  have unmoved : Function.update w.heap.l2 w.heap.brk (w.heap.l2 l2Sentinel) l2Sentinel = w.heap.l2 l2Sentinel :=
    Function.update_of_ne s.brkPos.ne _ _
  constructor
  · exact s.l3Clean
  · intro inited j
    simpa [unmoved] using s.l2Clean inited j
  · intro pa' l1' h
    obtain ⟨l1₀,old,-⟩ := copyL2Entries has sentinel h
    exact s.initedFirst old
  · exact Nat.succ_pos _
  · intro pa' l1' h i
    obtain ⟨l1₀,old,entry⟩ := copyL2Entries has sentinel h
    rcases entry i with kept | ⟨-,-,copied,-⟩
    · simpa [kept] using Nat.lt_succ_of_lt (s.l2Below old i)
    · simp [copied]
  · intro pa' l1' h i j
    obtain ⟨l1₀,old,entry⟩ := copyL2Entries has sentinel h
    simpa [copyL2Rows s old (entry i)] using Nat.lt_succ_of_lt (s.l3Below old i j)
  · intro pa₁ l₁ pa₂ l₂ h₁ h₂ i i' same owned
    obtain ⟨m₁,old₁,entry₁⟩ := copyL2Entries has sentinel h₁
    obtain ⟨m₂,old₂,entry₂⟩ := copyL2Entries has sentinel h₂
    rcases entry₁ i with kept₁ | ⟨rfl,rfl,copied₁,-⟩ <;> rcases entry₂ i' with kept₂ | ⟨rfl,rfl,copied₂,-⟩
    · rw [kept₁,kept₂] at same
      rw [kept₁] at owned
      exact s.l2Owned old₁ old₂ i i' same owned
    · have := s.l2Below old₁ i
      omega
    · have := s.l2Below old₂ i'
      omega
    · exact ⟨rfl,rfl⟩
  · intro pa₁ l₁ pa₂ l₂ h₁ h₂ i j i' j' same owned
    obtain ⟨m₁,old₁,entry₁⟩ := copyL2Entries has sentinel h₁
    obtain ⟨m₂,old₂,entry₂⟩ := copyL2Entries has sentinel h₂
    simp only [copyL2Rows s old₁ (entry₁ i),copyL2Rows s old₂ (entry₂ i')] at same owned ⊢
    exact s.l3Owned old₁ old₂ i j i' j' same owned

theorem copyL2Reads (s : Sound w) (has : w.arrays pa = some l1) (sentinel : l1 i1 = l2Sentinel) :
    World.reads { w with heap := w.heap.dupL2.1, arrays := Function.update w.arrays pa (some (Function.update l1 i1 w.heap.dupL2.2)) } =
      w.reads := by
  funext pa'
  cases copied : Function.update w.arrays pa (some (Function.update l1 i1 w.heap.dupL2.2)) pa' with
  | none =>
    have unset : w.arrays pa' = none := by
      by_cases same : pa' = pa
      · subst same
        simp at copied
      · rwa [Function.update_of_ne same] at copied
    simp [World.reads,copied,unset]
  | some l1' =>
    obtain ⟨l1₀,old,entry⟩ := copyL2Entries has sentinel copied
    simp only [World.reads,copied,old,Option.map_some]
    congr 1
    funext i j k
    simp only [Heap.read,Heap.dupL2,copyL2Rows s old (entry i)]

theorem traverseL1Spec (s : Sound w) (has : w.arrays pa = some l1) (i1 : Nat) :
    Sound { w with heap := (traverseL1 w.heap l1 i1).1, arrays := Function.update w.arrays pa (some (traverseL1 w.heap l1 i1).2) } ∧
      World.reads { w with heap := (traverseL1 w.heap l1 i1).1, arrays := Function.update w.arrays pa (some (traverseL1 w.heap l1 i1).2) } = w.reads ∧
      (traverseL1 w.heap l1 i1).2 i1 ≠ l2Sentinel := by
  unfold traverseL1
  by_cases sentinel : l1 i1 = l2Sentinel
  · simp only [if_pos sentinel]
    refine ⟨copyL2Sound s has sentinel,copyL2Reads s has sentinel,?_⟩
    simpa [Heap.dupL2,l2Sentinel] using s.brkPos.ne'
  · -- a node of its own already: nothing changes
    have same : Function.update w.arrays pa (some l1) = w.arrays := Function.update_eq_self_iff.mpr has.symm
    rw [if_neg sentinel]
    dsimp only
    rw [same]
    exact ⟨s,rfl,sentinel⟩

variable {i2 : Nat}

omit [DecidableEq ι] in
theorem copyL3Entries (s : Sound w) (has : w.arrays pa = some l1) (owned : l1 i1 ≠ l2Sentinel)
    (sentinel : w.heap.l2 (l1 i1) i2 = l3Sentinel) : ∀ ⦃pa' : ι⦄ ⦃l1' : Nat → Nat⦄, w.arrays pa' = some l1' → ∀ i j,
    Function.update w.heap.l2 (l1 i1) (Function.update (w.heap.l2 (l1 i1)) i2 w.heap.brk) (l1' i) j = w.heap.l2 (l1' i) j ∨
      (pa' = pa ∧ i = i1 ∧ j = i2 ∧
        Function.update w.heap.l2 (l1 i1) (Function.update (w.heap.l2 (l1 i1)) i2 w.heap.brk) (l1' i) j = w.heap.brk ∧
        w.heap.l2 (l1' i) j = l3Sentinel) := by
  intro pa' l1' old i j
  by_cases node : l1' i = l1 i1
  · -- the written node is this instance's own, at this entry only
    obtain ⟨rfl,rfl⟩ := s.l2Owned old has i i1 node (node ▸ owned)
    rw [old] at has
    cases has
    by_cases at2 : j = i2
    · subst at2
      exact .inr ⟨rfl,rfl,rfl,by simp,sentinel⟩
    · exact .inl (by rw [Function.update_self,Function.update_of_ne at2])
  · exact .inl (by rw [Function.update_of_ne node])

omit [DecidableEq ι] in
theorem copyL3Cells (s : Sound w) {pa' : ι} {l1' : Nat → Nat} (old : w.arrays pa' = some l1') {i j x : Nat}
    (entry : x = w.heap.l2 (l1' i) j ∨ (x = w.heap.brk ∧ w.heap.l2 (l1' i) j = l3Sentinel)) :
    Function.update w.heap.l3 w.heap.brk (w.heap.l3 l3Sentinel) x = w.heap.l3 (w.heap.l2 (l1' i) j) := by
  rcases entry with kept | ⟨copied,was⟩
  · rw [kept,Function.update_of_ne (s.l3Below old i j).ne]
  · rw [copied,was,Function.update_self]

theorem copyL3Sound (s : Sound w) (has : w.arrays pa = some l1) (owned : l1 i1 ≠ l2Sentinel)
    (sentinel : w.heap.l2 (l1 i1) i2 = l3Sentinel) :
    Sound { w with heap := { w.heap.dupL3.1 with
      l2 := Function.update w.heap.dupL3.1.l2 (l1 i1) (Function.update (w.heap.dupL3.1.l2 (l1 i1)) i2 w.heap.dupL3.2) } } := by
  simp only [Heap.dupL3]
  have entries := copyL3Entries s has owned sentinel
  have unmoved : l3Sentinel ≠ w.heap.brk := s.brkPos.ne
  constructor
  · intro j
    simpa [Function.update_of_ne unmoved] using s.l3Clean j
  · intro inited j
    simpa [Function.update_of_ne (Ne.symm owned)] using s.l2Clean inited j
  · exact s.initedFirst
  · exact Nat.succ_pos _
  · intro pa' l1' old i
    exact Nat.lt_succ_of_lt (s.l2Below old i)
  · intro pa' l1' old i j
    rcases entries old i j with kept | ⟨-,-,-,copied,-⟩
    · simpa [kept] using Nat.lt_succ_of_lt (s.l3Below old i j)
    · simp [copied]
  · exact s.l2Owned
  · intro pa₁ l₁ pa₂ l₂ old₁ old₂ i j i' j' same owned₃
    dsimp only at old₁ old₂ same owned₃
    rcases entries old₁ i j with kept₁ | ⟨rfl,rfl,rfl,copied₁,-⟩ <;>
      rcases entries old₂ i' j' with kept₂ | ⟨rfl,rfl,rfl,copied₂,-⟩
    · rw [kept₁,kept₂] at same
      rw [kept₁] at owned₃
      exact s.l3Owned old₁ old₂ i j i' j' same owned₃
    · have := s.l3Below old₁ i j
      omega
    · have := s.l3Below old₂ i' j'
      omega
    · exact ⟨rfl,rfl,rfl⟩

omit [DecidableEq ι] in
theorem copyL3Reads (s : Sound w) (has : w.arrays pa = some l1) (owned : l1 i1 ≠ l2Sentinel)
    (sentinel : w.heap.l2 (l1 i1) i2 = l3Sentinel) :
    World.reads { w with heap := { w.heap.dupL3.1 with
      l2 := Function.update w.heap.dupL3.1.l2 (l1 i1) (Function.update (w.heap.dupL3.1.l2 (l1 i1)) i2 w.heap.dupL3.2) } } =
      w.reads := by
  funext pa'
  cases old : w.arrays pa' with
  | none => simp [World.reads,old]
  | some l1' =>
    simp only [World.reads,old,Option.map_some]
    congr 1
    funext i j k
    have cell := copyL3Cells s old (x := Function.update w.heap.l2 (l1 i1) (Function.update (w.heap.l2 (l1 i1)) i2 w.heap.brk) (l1' i) j)
      (by rcases copyL3Entries s has owned sentinel old i j with kept | ⟨-,-,-,copied,was⟩
          · exact .inl kept
          · exact .inr ⟨copied,was⟩)
    simp only [Heap.read,Heap.dupL3,cell]

theorem traverseL2Spec (s : Sound w) (has : w.arrays pa = some l1) (owned : l1 i1 ≠ l2Sentinel) (i2 : Nat) :
    Sound { w with heap := traverseL2 w.heap (l1 i1) i2 } ∧ World.reads { w with heap := traverseL2 w.heap (l1 i1) i2 } = w.reads ∧
      (traverseL2 w.heap (l1 i1) i2).l2 (l1 i1) i2 ≠ l3Sentinel := by
  unfold traverseL2
  by_cases sentinel : w.heap.l2 (l1 i1) i2 = l3Sentinel
  · simp only [if_pos sentinel]
    refine ⟨copyL3Sound s has owned sentinel,copyL3Reads s has owned sentinel,?_⟩
    simpa [Heap.dupL3,l3Sentinel] using s.brkPos.ne'
  · rw [if_neg sentinel]
    exact ⟨s,rfl,sentinel⟩

omit [DecidableEq ι] in
theorem setL3Sound (s : Sound w) (node : w.heap.l2 (l1 i1) i2 ≠ l3Sentinel)
    (i3 : Nat) (p : Option α) : Sound { w with heap := w.heap.setL3 (w.heap.l2 (l1 i1) i2) i3 p } := by
  have unmoved : ∀ j, Function.update w.heap.l3 (w.heap.l2 (l1 i1) i2)
      (Function.update (w.heap.l3 (w.heap.l2 (l1 i1) i2)) i3 p) l3Sentinel j = w.heap.l3 l3Sentinel j := fun j => by
    rw [Function.update_of_ne (Ne.symm node)]
  exact ⟨fun j => (unmoved j).trans (s.l3Clean j),s.l2Clean,s.initedFirst,s.brkPos,s.l2Below,s.l3Below,s.l2Owned,s.l3Owned⟩

theorem setL3Reads (s : Sound w) (has : w.arrays pa = some l1) (node : w.heap.l2 (l1 i1) i2 ≠ l3Sentinel)
    (i3 : Nat) (p : Option α) (pa' : ι) :
    World.reads { w with heap := w.heap.setL3 (w.heap.l2 (l1 i1) i2) i3 p } pa' =
      if pa' = pa then some fun i j k => if i = i1 ∧ j = i2 ∧ k = i3 then p else w.heap.read l1 i j k
      else w.reads pa' := by
  cases old : w.arrays pa' with
  | none =>
    have : pa' ≠ pa := fun same => by rw [same,has] at old; cases old
    simp [World.reads,old,this]
  | some l1' =>
    have cell : ∀ i j k, (w.heap.setL3 (w.heap.l2 (l1 i1) i2) i3 p).read l1' i j k =
        if pa' = pa ∧ i = i1 ∧ j = i2 ∧ k = i3 then p else w.heap.read l1' i j k := fun i j k => by
      simp only [Heap.setL3,Heap.read]
      by_cases written : w.heap.l2 (l1' i) j = w.heap.l2 (l1 i1) i2
      · obtain ⟨rfl,rfl,rfl⟩ := s.l3Owned old has i j i1 i2 written (written ▸ node)
        rw [old] at has
        cases has
        by_cases at3 : k = i3 <;> simp [at3]
      · have differs : ¬(pa' = pa ∧ i = i1 ∧ j = i2) := by
          rintro ⟨rfl,rfl,rfl⟩
          rw [old] at has
          cases has
          exact written rfl
        rw [Function.update_of_ne written,if_neg (fun all => differs ⟨all.1,all.2.1,all.2.2.1⟩)]
    by_cases same : pa' = pa
    · subst same
      rw [old] at has
      cases has
      simp only [World.reads,old,Option.map_some,if_true]
      congr 1
      funext i j k
      simp [cell]
    · simp only [World.reads,old,Option.map_some,if_neg same]
      congr 1
      funext i j k
      simp [cell,same]

theorem setSpec (s : Sound w) (has : w.arrays pa = some l1) (idx : UInt16) (p : Option α) :
    ∃ w', portArraySet w pa idx p = .ok w' ∧ Sound w' ∧ ∀ pa', w'.reads pa' =
      if pa' = pa then
        some fun i j k => if i = portArrayL1 idx ∧ j = portArrayL2 idx ∧ k = portArrayL3 idx then p else w.heap.read l1 i j k
      else w.reads pa' := by
  obtain ⟨sound₁,reads₁,owned₁⟩ := traverseL1Spec s has (portArrayL1 idx)
  have has₁ : Function.update w.arrays pa (some (traverseL1 w.heap l1 (portArrayL1 idx)).2) pa =
      some (traverseL1 w.heap l1 (portArrayL1 idx)).2 := Function.update_self ..
  obtain ⟨sound₂,reads₂,node₂⟩ := traverseL2Spec sound₁ has₁ owned₁ (portArrayL2 idx)
  refine ⟨_,by simp only [portArraySet,has]; rfl,setL3Sound sound₂ node₂ (portArrayL3 idx) p,fun pa' => ?_⟩
  rw [setL3Reads sound₂ has₁ node₂ (portArrayL3 idx) p pa',reads₂,reads₁]
  have own : (traverseL2 (traverseL1 w.heap l1 (portArrayL1 idx)).1 ((traverseL1 w.heap l1 (portArrayL1 idx)).2 (portArrayL1 idx))
      (portArrayL2 idx)).read (traverseL1 w.heap l1 (portArrayL1 idx)).2 = w.heap.read l1 := by
    have := congrFun (reads₂.trans reads₁) pa
    simpa [World.reads,has] using this
  by_cases same : pa' = pa
  · simp only [if_pos same]
    congr 1
    funext i j k
    split
    · rfl
    · exact congrFun (congrFun (congrFun own i) j) k
  · simp only [if_neg same]

end Set

section Refinement
open Simulation
variable {w : World ι α}

/- A world before the first init: the static l3_sentinel is zero, which is null everywhere, and nothing was
allocated. -/
def World.start (heap : Heap α) : World ι α := ⟨heap,false,fun _ => none⟩

omit [DecidableEq ι] in
theorem startSound {heap : Heap α} (clean : ∀ j, heap.l3 l3Sentinel j = none) (allocated : 0 < heap.brk) :
    Sound (World.start heap : World ι α) := by
  have none : ∀ {pa l1}, (World.start heap : World ι α).arrays pa ≠ some l1 := fun has => by cases has
  exact ⟨clean,fun unset => (by cases unset),fun has => absurd has none,allocated,fun has => absurd has none,
    fun has => absurd has none,fun has => absurd has none,fun has => absurd has none⟩

omit [DecidableEq ι] in
theorem startView (heap : Heap α) : (World.start heap : World ι α).view = fun _ => none := rfl

omit [DecidableEq ι] in
theorem getView (w : World ι α) (pa : ι) (idx : UInt16) : portArrayGet w pa idx = w.view.get pa idx := by
  unfold portArrayGet PaMap.get World.view World.reads
  cases w.arrays pa <;> rfl

theorem initView (s : Sound w) (pa : ι) : (portArrayInit w pa).view = w.view.init pa := by
  funext pa'
  by_cases same : pa' = pa
  · subst same
    simp [World.view,initReads s,PaMap.init]
  · simp [World.view,initReads s,PaMap.init,same]

theorem setView (s : Sound w) {l1 : Nat → Nat} (has : w.arrays pa = some l1) (idx : UInt16) (p : Option α) :
    ∃ w', portArraySet w pa idx p = .ok w' ∧ Sound w' ∧
      w'.view = Function.update w.view pa (some (Function.update (fun idx => w.heap.read l1 (portArrayL1 idx) (portArrayL2 idx) (portArrayL3 idx)) idx p)) := by
  obtain ⟨w',set,sound,reads⟩ := setSpec s has idx p
  refine ⟨w',set,sound,funext fun pa' => ?_⟩
  by_cases same : pa' = pa
  · subst same
    simp only [World.view,reads,if_true,Option.map_some,Function.update_self]
    congr 1
    funext idx'
    by_cases at_ : idx' = idx
    · subst at_
      simp
    · -- another port number differs in one of its three indices
      have differs : ¬(portArrayL1 idx' = portArrayL1 idx ∧ portArrayL2 idx' = portArrayL2 idx ∧ portArrayL3 idx' = portArrayL3 idx) :=
        fun all => at_ (indicesInjective all.1 all.2.1 all.2.2)
      simp [differs,at_]
  · simp [World.view,reads,same]

theorem stepRefines (s : Sound w) (op : PaOp ι α) :
    ExceptRel (fun w' m => Sound w' ∧ w'.view = m) (portArrayStep w op) (w.view.step op) := by
  cases op with
  | init pa => exact .ok ⟨initSound s pa,initView s pa⟩
  | clear pa =>
    cases has : w.arrays pa with
    | none =>
      have unset : w.view pa = none := by simp [World.view,World.reads,has]
      simp only [portArrayStep,portArrayClear,portArrayDestroy,has,PaMap.step,unset]
      exact .error _
    | some l1 =>
      have set : w.view pa = some fun idx => w.heap.read l1 (portArrayL1 idx) (portArrayL2 idx) (portArrayL3 idx) := by
        simp [World.view,World.reads,has]
      simp only [portArrayStep,portArrayClear,portArrayDestroy,has,PaMap.step,set]
      exact .ok ⟨initSound s pa,initView s pa⟩
  | set pa idx p =>
    cases has : w.arrays pa with
    | none =>
      have unset : w.view pa = none := by simp [World.view,World.reads,has]
      simp only [portArrayStep,portArraySet,has,PaMap.step,unset]
      exact .error _
    | some l1 =>
      obtain ⟨w',set,sound,view⟩ := setView s has idx p
      have vals : w.view pa = some fun idx => w.heap.read l1 (portArrayL1 idx) (portArrayL2 idx) (portArrayL3 idx) := by
        simp [World.view,World.reads,has]
      simp only [portArrayStep,set,PaMap.step,vals]
      exact .ok ⟨sound,view⟩

theorem runRefines (s : Sound w) (ops : List (PaOp ι α)) :
    ExceptRel (fun w' m => Sound w' ∧ w'.view = m) (ops.foldlM portArrayStep w) (ops.foldlM PaMap.step w.view) :=
  foldlMRel (fun _ _ op related => by
    obtain ⟨sound,rfl⟩ := related
    exact stepRefines sound op) ops ⟨s,rfl⟩

end Refinement

end OpenFlow.PortArray
