import Mathlib
import OpenFlow.PortArray

/-! The iterator of lib/port-array.c. -/
namespace OpenFlow.PortArray
open Search Simulation

variable {ι α : Type} [DecidableEq ι]

/- The lowest-numbered element from `start` on that is not null, with its index; null and 65536 when there is
none. -/
def PaMap.lowestFrom (vals : UInt16 → Option α) (start : Nat) : Option α × UInt32 :=
  match first (fun i => vals i.toUInt16) start (portArraySize - start) with
  | some hit => (some hit.2,hit.1.toUInt32)
  | none => (none,portArraySize.toUInt32)

/- The elements under a level-2 node and under a level-1 array, by flat index. -/
def Heap.readL2 (heap : Heap α) (l2 j : Nat) : Option α := heap.l3 (heap.l2 l2 (j / 64)) (j % 64)
def Heap.readL1 (heap : Heap α) (l1 : Nat → Nat) (j : Nat) : Option α := heap.readL2 (l1 (j / 2048)) (j % 2048)

section Scan
variable {heap : Heap α}

theorem firstBelow {V : Nat → Option α} {lo : Nat} {hit : Nat × α} (found : first V lo (64 - lo) = some hit) :
    hit.1 < 64 := by
  have spec := firstSpec (V := V) lo (64 - lo)
  rw [found] at spec
  obtain ⟨low,high,-,-⟩ := spec
  omega

theorem scanL2Below {l2 : Nat} : ∀ {n l2Idx l3Idx : Nat} {hit : Nat × Nat × α},
    scanL2 heap l2 l2Idx l3Idx n = some hit → l2Idx ≤ hit.1 ∧ hit.1 < l2Idx + n ∧ hit.2.1 < 64
  | 0, _, _, _, stop => by cases stop
  | n + 1, l2Idx, l3Idx, hit, stop => by
    rw [scanL2] at stop
    split at stop
    · rename_i found inner
      cases stop
      split at inner
      · exact ⟨le_rfl,by omega,firstBelow inner⟩
      · cases inner
    · have := scanL2Below stop
      omega

theorem scanL1Below {l1 : Nat → Nat} : ∀ {n l1Idx l2Idx l3Idx : Nat} {hit : Nat × Nat × Nat × α},
    scanL1 heap l1 l1Idx l2Idx l3Idx n = some hit → hit.1 < l1Idx + n ∧ hit.2.1 < 32 ∧ hit.2.2.1 < 64
  | 0, _, _, _, _, stop => by cases stop
  | n + 1, l1Idx, l2Idx, l3Idx, hit, stop => by
    rw [scanL1] at stop
    split at stop
    · rename_i found inner
      cases stop
      split at inner
      · obtain ⟨low,high,below⟩ := scanL2Below inner
        simp only [portArrayL2SizeEq] at high
        dsimp only
        exact ⟨by omega,by omega,below⟩
      · cases inner
    · have := scanL1Below stop
      omega

theorem blockL2 (clean : ∀ j, heap.l3 l3Sentinel j = none) (l2 l2Idx l3Idx : Nat) :
    FirstFrom (heap.readL2 l2) (l2Idx * 64 + l3Idx) ((l2Idx + 1) * 64)
      ((if heap.l2 l2 l2Idx ≠ l3Sentinel then first (heap.l3 (heap.l2 l2 l2Idx)) l3Idx (portArrayL3Size - l3Idx) else none).map
        fun hit => (l2Idx * 64 + hit.1,hit.2)) := by
  have inBlock : ∀ j, l3Idx ≤ j → j < 64 → heap.l3 (heap.l2 l2 l2Idx) j = heap.readL2 l2 (l2Idx * 64 + j) := fun j _ high => by
    simp only [Heap.readL2]
    rw [show (l2Idx * 64 + j) / 64 = l2Idx by omega,show (l2Idx * 64 + j) % 64 = j by omega]
  by_cases sentinel : heap.l2 l2 l2Idx = l3Sentinel
  · rw [if_neg (not_not.mpr sentinel)]
    intro k low high
    simp only [Heap.readL2]
    rw [show k / 64 = l2Idx by omega,sentinel,clean]
  · rw [if_pos sentinel]
    have found : FirstFrom (fun j => heap.readL2 l2 (l2Idx * 64 + j)) l3Idx (l3Idx + (portArrayL3Size - l3Idx))
        (first (heap.l3 (heap.l2 l2 l2Idx)) l3Idx (portArrayL3Size - l3Idx)) :=
      (firstSpec l3Idx (portArrayL3Size - l3Idx)).congr fun j low high => inBlock j low (by simp at high; omega)
    by_cases past : 64 ≤ l3Idx
    · simp only [portArrayL3SizeEq,Nat.sub_eq_zero_of_le past,first,Option.map_none]
      exact FirstFrom.empty (by omega)
    · have shifted := found.shift
      rw [show l3Idx + (portArrayL3Size - l3Idx) = 64 by simp; omega] at shifted
      rwa [show (l2Idx + 1) * 64 = l2Idx * 64 + 64 by ring]

theorem scanL2Spec (clean : ∀ j, heap.l3 l3Sentinel j = none) (l2 : Nat) :
    ∀ n l2Idx l3Idx, l3Idx ≤ 64 → FirstFrom (heap.readL2 l2) (l2Idx * 64 + l3Idx) ((l2Idx + n) * 64)
      ((scanL2 heap l2 l2Idx l3Idx n).map fun hit => (hit.1 * 64 + hit.2.1,hit.2.2))
  | 0, l2Idx, l3Idx, _ => FirstFrom.empty (by omega)
  | n + 1, l2Idx, l3Idx, low => by
    have block := blockL2 clean l2 l2Idx l3Idx
    rw [scanL2]
    generalize (if heap.l2 l2 l2Idx ≠ l3Sentinel then first (heap.l3 (heap.l2 l2 l2Idx)) l3Idx (portArrayL3Size - l3Idx)
      else none) = found at block ⊢
    cases found with
    | some hit => exact block.widen (by ring_nf; omega)
    | none =>
      have rest := scanL2Spec clean l2 n (l2Idx + 1) 0 (by omega)
      rw [show (l2Idx + 1 + n) * 64 = (l2Idx + (n + 1)) * 64 by ring_nf] at rest
      exact block.append rest (by ring_nf; omega)

theorem blockL1 (clean : ∀ j, heap.l3 l3Sentinel j = none) (row : ∀ j, heap.l2 l2Sentinel j = l3Sentinel)
    (l1 : Nat → Nat) (l1Idx l2Idx l3Idx : Nat) (low2 : l2Idx < 32) (low3 : l3Idx < 64) :
    FirstFrom (heap.readL1 l1) (l1Idx * 2048 + l2Idx * 64 + l3Idx) ((l1Idx + 1) * 2048)
      ((if l1 l1Idx ≠ l2Sentinel then scanL2 heap (l1 l1Idx) l2Idx l3Idx (portArrayL2Size - l2Idx) else none).map
        fun hit => (l1Idx * 2048 + hit.1 * 64 + hit.2.1,hit.2.2)) := by
  have inBlock : ∀ j, j < 2048 → heap.readL2 (l1 l1Idx) j = heap.readL1 l1 (l1Idx * 2048 + j) := fun j high => by
    simp only [Heap.readL1]
    rw [show (l1Idx * 2048 + j) / 2048 = l1Idx by omega,show (l1Idx * 2048 + j) % 2048 = j by omega]
  by_cases sentinel : l1 l1Idx = l2Sentinel
  · rw [if_neg (not_not.mpr sentinel)]
    intro k low high
    simp only [Heap.readL1,Heap.readL2]
    rw [show k / 2048 = l1Idx by omega,sentinel,row,clean]
  · rw [if_pos sentinel]
    have found : FirstFrom (fun j => heap.readL1 l1 (l1Idx * 2048 + j)) (l2Idx * 64 + l3Idx)
        ((l2Idx + (portArrayL2Size - l2Idx)) * 64)
        ((scanL2 heap (l1 l1Idx) l2Idx l3Idx (portArrayL2Size - l2Idx)).map fun hit => (hit.1 * 64 + hit.2.1,hit.2.2)) :=
      (scanL2Spec clean (l1 l1Idx) (portArrayL2Size - l2Idx) l2Idx l3Idx (by omega)).congr fun j _ high =>
        inBlock j (by simp at high; omega)
    have shifted := found.shift
    rw [Option.map_map] at shifted
    rw [show l2Idx + (portArrayL2Size - l2Idx) = 32 by simp; omega] at shifted
    rw [show (l1Idx + 1) * 2048 = l1Idx * 2048 + 32 * 64 by ring,show l1Idx * 2048 + l2Idx * 64 + l3Idx = l1Idx * 2048 + (l2Idx * 64 + l3Idx) by ring]
    convert shifted using 2
    funext hit
    simp only [Function.comp_apply,Prod.mk.injEq,and_true]
    ring

theorem scanL1Spec (clean : ∀ j, heap.l3 l3Sentinel j = none) (row : ∀ j, heap.l2 l2Sentinel j = l3Sentinel)
    (l1 : Nat → Nat) : ∀ n l1Idx l2Idx l3Idx, l2Idx < 32 → l3Idx < 64 →
      FirstFrom (heap.readL1 l1) (l1Idx * 2048 + l2Idx * 64 + l3Idx) ((l1Idx + n) * 2048)
        ((scanL1 heap l1 l1Idx l2Idx l3Idx n).map fun hit => (hit.1 * 2048 + hit.2.1 * 64 + hit.2.2.1,hit.2.2.2))
  | 0, l1Idx, l2Idx, l3Idx, _, _ => FirstFrom.empty (by omega)
  | n + 1, l1Idx, l2Idx, l3Idx, low2, low3 => by
    have block := blockL1 clean row l1 l1Idx l2Idx l3Idx low2 low3
    rw [scanL1]
    generalize (if l1 l1Idx ≠ l2Sentinel then scanL2 heap (l1 l1Idx) l2Idx l3Idx (portArrayL2Size - l2Idx) else none) = found
      at block ⊢
    cases found with
    | some hit =>
      have wide : FirstFrom (heap.readL1 l1) (l1Idx * 2048 + l2Idx * 64 + l3Idx) ((l1Idx + (n + 1)) * 2048) _ :=
        block.widen (by ring_nf; omega)
      simpa [Nat.add_assoc] using wide
    | none =>
      have rest := scanL1Spec clean row l1 n (l1Idx + 1) 0 0 (by omega) (by omega)
      rw [show (l1Idx + 1 + n) * 2048 = (l1Idx + (n + 1)) * 2048 by ring_nf] at rest
      exact block.append (by simpa using rest) (by omega)

theorem orShifts {l1Idx l2Idx l3Idx : Nat} (low2 : l2Idx < 32) (low3 : l3Idx < 64) :
    (l1Idx <<< 11) ||| (l2Idx <<< 6) ||| (l3Idx <<< 0) = l1Idx * 2048 + l2Idx * 64 + l3Idx := by
  have middle : l2Idx <<< 6 < 2 ^ 11 := by
    rw [Nat.shiftLeft_eq]
    omega
  have upper : l1Idx <<< 11 ||| l2Idx <<< 6 = (l1Idx * 32 + l2Idx) <<< 6 := by
    rw [← Nat.shiftLeft_add_eq_or_of_lt middle,Nat.shiftLeft_eq,Nat.shiftLeft_eq,Nat.shiftLeft_eq]
    ring
  rw [Nat.shiftLeft_zero,upper,← Nat.shiftLeft_add_eq_or_of_lt (show l3Idx < 2 ^ 6 by omega),Nat.shiftLeft_eq]
  ring

theorem readL1Values (l1 : Nat → Nat) {k : Nat} (below : k < 65536) :
    heap.readL1 l1 k = heap.read l1 (portArrayL1 k.toUInt16) (portArrayL2 k.toUInt16) (portArrayL3 k.toUInt16) := by
  have small : k.toUInt16.toNat = k := by simp; omega
  simp only [Heap.readL1,Heap.readL2,Heap.read,portArrayL1Eq,portArrayL2Eq,portArrayL3Eq,small]
  rw [show k % 2048 / 64 = k / 64 % 32 by omega,show k % 2048 % 64 = k % 64 by omega]

theorem nextLowest (clean : ∀ j, heap.l3 l3Sentinel j = none) (row : ∀ j, heap.l2 l2Sentinel j = l3Sentinel)
    (l1 : Nat → Nat) (idx : UInt32) :
    next heap l1 idx = PaMap.lowestFrom (fun i => heap.read l1 (portArrayL1 i) (portArrayL2 i) (portArrayL3 i)) idx.toNat := by
  unfold next PaMap.lowestFrom
  simp only [portArrayL1ShiftEq,portArrayL2ShiftEq,portArrayL3ShiftEq,portArrayL1SizeEq,portArraySizeEq,
    Nat.shiftRight_eq_div_pow,Nat.reducePow]
  by_cases past : 65536 ≤ idx.toNat
  · -- an index past the end skips the outer loop
    rw [show 32 - idx.toNat / 2048 = 0 by omega,show 65536 - idx.toNat = 0 by omega]
    rfl
  · have total : (idx.toNat / 2048 + (32 - idx.toNat / 2048)) * 2048 = 65536 := by
      omega
    have start : idx.toNat / 2048 * 2048 + portArrayL2 idx.toUInt16 * 64 + portArrayL3 idx.toUInt16 = idx.toNat := by
      simp only [portArrayL2Eq,portArrayL3Eq,UInt32.toNat_toUInt16,Nat.reducePow]
      clear total
      omega
    have scan := scanL1Spec clean row l1 (32 - idx.toNat / 2048) (idx.toNat / 2048)
      (portArrayL2 idx.toUInt16) (portArrayL3 idx.toUInt16) (by rw [portArrayL2Eq]; omega) (by rw [portArrayL3Eq]; omega)
    rw [start,total] at scan
    have search := firstSpec (V := fun i => heap.read l1 (portArrayL1 i.toUInt16) (portArrayL2 i.toUInt16) (portArrayL3 i.toUInt16))
      idx.toNat (65536 - idx.toNat)
    rw [show idx.toNat + (65536 - idx.toNat) = 65536 by omega] at search
    have same := (scan.congr fun k _ high => readL1Values l1 high).unique search
    rw [← same]
    cases found : scanL1 heap l1 (idx.toNat / 2048) (portArrayL2 idx.toUInt16) (portArrayL3 idx.toUInt16) (32 - idx.toNat / 2048) with
    | none => rfl
    | some hit =>
      obtain ⟨-,low2,low3⟩ := scanL1Below found
      obtain ⟨l1Idx,l2Idx,l3Idx,p⟩ := hit
      simp only [Option.map_some]
      rw [orShifts low2 low3]

end Scan

section Iterate
variable {w : World ι α} {pa : ι}

omit [DecidableEq ι] in
theorem visitLowest {vals : UInt16 → Option α}
    (nexts : ∀ idx, portArrayNext w pa idx = .ok (PaMap.lowestFrom vals (idx + 1).toNat)) :
    ∀ fuel start, 65536 - start ≤ fuel → portArrayVisit w pa fuel (PaMap.lowestFrom vals start) =
      .ok ((List.range' start (65536 - start)).filterMap (fun i => (vals i.toUInt16).map fun p => (i.toUInt32,p)),65536) := by
  intro fuel
  induction fuel with
  | zero =>
    intro start enough
    rw [show 65536 - start = 0 by omega]
    unfold PaMap.lowestFrom
    rw [show portArraySize - start = 0 by simp only [portArraySizeEq]; omega]
    rfl
  | succ fuel ih =>
    intro start enough
    have search := firstSpec (V := fun i => vals i.toUInt16) start (portArraySize - start)
    unfold PaMap.lowestFrom
    cases found : first (fun i => vals i.toUInt16) start (portArraySize - start) with
    | none =>
      rw [found] at search
      have none := search.hitsNone (g := fun i p => (i.toUInt32,p))
      rw [Nat.add_sub_cancel_left,portArraySizeEq] at none
      simp only [portArrayVisit,none]
      rfl
    | some hit =>
      rw [found] at search
      have within := search
      obtain ⟨low,high,-,-⟩ := within
      simp only [portArraySizeEq] at high search
      rw [show start + (65536 - start) = 65536 by omega] at search
      have after : (hit.1.toUInt32 + 1).toNat = hit.1 + 1 := by
        simp [UInt32.toNat_add]
        omega
      simp only [portArrayVisit,nexts,after,bind,Except.bind,ih (hit.1 + 1) (by omega),pure,Except.pure,search.hitsSome]

/- The elements of a set-up instance by port number. -/
def Heap.values (heap : Heap α) (l1 : Nat → Nat) (idx : UInt16) : Option α :=
  heap.read l1 (portArrayL1 idx) (portArrayL2 idx) (portArrayL3 idx)

omit [DecidableEq ι] in
theorem firstLowest (s : Sound w) {l1 : Nat → Nat} (has : w.arrays pa = some l1) :
    portArrayFirst w pa = .ok (PaMap.lowestFrom (w.heap.values l1) 0) := by
  simp only [portArrayFirst,has,nextLowest s.l3Clean (s.sentinelRow has)]
  rfl

omit [DecidableEq ι] in
theorem nextOfLowest (s : Sound w) {l1 : Nat → Nat} (has : w.arrays pa = some l1) (idx : UInt32) :
    portArrayNext w pa idx = .ok (PaMap.lowestFrom (w.heap.values l1) (idx + 1).toNat) := by
  simp only [portArrayNext,has,nextLowest s.l3Clean (s.sentinelRow has)]
  rfl

omit [DecidableEq ι] in
theorem forEachVisits (s : Sound w) {l1 : Nat → Nat} (has : w.arrays pa = some l1) :
    portArrayForEach w pa = .ok ((List.range 65536).filterMap (fun i =>
      (w.heap.values l1 i.toUInt16).map fun p => (i.toUInt32,p)),65536) := by
  have visited := visitLowest (nextOfLowest s has) 65536 0 (by omega)
  simp only [portArrayForEach,firstLowest s has,bind,Except.bind,portArraySizeEq]
  rw [List.range_eq_range']
  exact visited

end Iterate

section Runs
open Simulation

/- What a client of the port_array sees agrees with the map: every get, the first and every next element, and
the whole for loop. -/
structure Agrees (w : World ι α) (m : PaMap ι α) : Prop where
  get : ∀ pa idx, portArrayGet w pa idx = m.get pa idx
  first : ∀ pa vals, m pa = some vals → portArrayFirst w pa = .ok (PaMap.lowestFrom vals 0)
  next : ∀ pa vals, m pa = some vals → ∀ idx, portArrayNext w pa idx = .ok (PaMap.lowestFrom vals (idx + 1).toNat)
  forEach : ∀ pa vals, m pa = some vals →
    portArrayForEach w pa = .ok ((List.range 65536).filterMap (fun i => (vals i.toUInt16).map fun p => (i.toUInt32,p)),65536)

omit [DecidableEq ι] in
theorem agreesOfView {w : World ι α} (s : Sound w) : Agrees w w.view := by
  have setUp : ∀ pa vals, w.view pa = some vals → ∃ l1, w.arrays pa = some l1 ∧ vals = w.heap.values l1 := by
    intro pa vals has
    cases arrays : w.arrays pa with
    | none => simp [World.view,World.reads,arrays] at has
    | some l1 =>
      simp only [World.view,World.reads,arrays,Option.map_some,Option.some.injEq] at has
      exact ⟨l1,rfl,has.symm⟩
  refine ⟨getView w,fun pa vals has => ?_,fun pa vals has => ?_,fun pa vals has => ?_⟩
  · obtain ⟨l1,arrays,rfl⟩ := setUp pa vals has
    exact firstLowest s arrays
  · obtain ⟨l1,arrays,rfl⟩ := setUp pa vals has
    exact nextOfLowest s arrays
  · obtain ⟨l1,arrays,rfl⟩ := setUp pa vals has
    exact forEachVisits s arrays

theorem portArrayRunsAsMap (heap : Heap α) (clean : ∀ j, heap.l3 l3Sentinel j = none) (allocated : 0 < heap.brk)
    (ops : List (PaOp ι α)) :
    ExceptRel Agrees (ops.foldlM portArrayStep (World.start heap)) (ops.foldlM PaMap.step fun _ => none) := by
  have run := runRefines (startSound clean allocated) ops
  rw [startView] at run
  exact run.imp fun w m related => by
    obtain ⟨sound,rfl⟩ := related
    exact agreesOfView sound

/- Two instances: one set, the other set past the first level-1 entry, the first cleared. -/
def twoInstances : List (PaOp Nat Nat) := [.init 0,.set 0 5 (some 7),.init 1,.set 1 3000 (some 3),.clear 0]

theorem twoInstancesAgree :
    let heap : Heap Nat := ⟨fun _ _ => 0,fun _ _ => none,1⟩
    (∀ j, heap.l3 l3Sentinel j = none) ∧ 0 < heap.brk ∧
      ExceptRel Agrees (twoInstances.foldlM portArrayStep (World.start heap)) (twoInstances.foldlM PaMap.step fun _ => none) :=
  ⟨fun _ => rfl,Nat.one_pos,portArrayRunsAsMap _ (fun _ => rfl) Nat.one_pos twoInstances⟩

end Runs

end OpenFlow.PortArray
