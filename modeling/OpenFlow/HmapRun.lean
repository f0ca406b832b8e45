import Mathlib
import OpenFlow.HmapResize

/-! The client's view of lib/hmap: each map holds a list of nodes, and the operations act on those lists as
`HmapOp.apply` says. -/
namespace OpenFlow.HashMap
open Linked Search World

variable {ι ν : Type}

/- The client's maps hold the node lists `c`. -/
structure Good (w : World ι ν) (c : ι → List ν) : Prop where
  owned : ∀ i, Owned w (.map i)
  shape : ∀ i, ∃ e, e < 64 ∧ (w.maps (.map i)).mask.toNat + 1 = 2 ^ e
  laid : ∀ i, ∃ cs, Laid w (.map i) cs ∧ (nodes (w.maps (.map i)).mask cs).Perm (c i)
  count : ∀ i, (w.maps (.map i)).n = (c i).length
  nodesApart : ∀ i j, i ≠ j → List.Disjoint (c i) (c j)
  arraysApart : ∀ i j, i ≠ j → Disjoint (arraysOf w (.map i)) (arraysOf w (.map j))

section Basic
variable {w : World ι ν} {c : ι → List ν}

theorem Good.below (good : Good w c) {i : ι} {k : Nat} (mine : k ∈ arraysOf w (.map i)) : k < w.brk := by
  rcases good.owned i with ⟨one,_⟩ | ⟨k',array,under⟩
  · simp [arraysOf,one] at mine
  · simp only [arraysOf,Set.mem_ofPred_eq,array,Buckets.array.injEq] at mine
    omega

theorem Good.perm {c' : ι → List ν} (good : Good w c) (same : ∀ i, (c i).Perm (c' i)) : Good w c' where
  owned := good.owned
  shape := good.shape
  laid i := by
    obtain ⟨cs,laid,perm⟩ := good.laid i
    exact ⟨cs,laid,perm.trans (same i)⟩
  count i := by rw [good.count i,(same i).length_eq]
  nodesApart i j differ v inI inJ := good.nodesApart i j differ ((same i).mem_iff.2 inI) ((same j).mem_iff.2 inJ)
  arraysApart := good.arraysApart

theorem Good.counted (good : Good w c) {i : ι} {cs : Nat → List ν} (laid : Laid w (.map i) cs) :
    (nodes (w.maps (.map i)).mask cs).length = (w.maps (.map i)).n := by
  obtain ⟨cs',laid',perm⟩ := good.laid i
  rw [laid.unique laid',perm.length_eq,good.count i]

theorem apartUpdate {i : ι} [DecidableEq ι] {l : List ν} (apart : ∀ j k, j ≠ k → List.Disjoint (c j) (c k))
    (fresh : ∀ k, k ≠ i → List.Disjoint l (c k)) :
    ∀ j k, j ≠ k → List.Disjoint (Function.update c i l j) (Function.update c i l k) := by
  intro j k differ
  by_cases hj : j = i
  · subst hj
    rw [Function.update_self,Function.update_of_ne (Ne.symm differ)]
    exact fresh k (Ne.symm differ)
  · by_cases hk : k = i
    · subst hk
      rw [Function.update_self,Function.update_of_ne hj]
      exact (fresh j hj).symm
    · rw [Function.update_of_ne hj,Function.update_of_ne hk]
      exact apart j k differ

theorem Good.other {w' : World ι ν} {slots : Set (Slot ι)} {arrays : Set Nat} {touched : Set ν} (good : Good w c)
    (confined : Confined w w' slots arrays touched) {j : ι} (outside : Slot.map j ∉ slots)
    (free : Disjoint (arraysOf w (.map j)) arrays) (untouched : ∀ v ∈ c j, v ∉ touched) :
    w'.maps (.map j) = w.maps (.map j) ∧ Owned w' (.map j) ∧
      ∃ cs, Laid w' (.map j) cs ∧ (nodes (w'.maps (.map j)).mask cs).Perm (c j) := by
  have same := confined.others _ outside
  obtain ⟨cs,laid,perm⟩ := good.laid j
  refine ⟨same,(good.owned j).keep (by rw [same]) (by rw [same]) confined.grows,cs,
    confined.laid outside (good.owned j) free (fun v inside => untouched v (perm.subset inside)) laid,?_⟩
  rw [same]
  exact perm

end Basic

section Ops
variable [DecidableEq ι] [DecidableEq ν] {w : World ι ν} {c : ι → List ν} {mallocMax : Nat}

theorem Good.insertFast (good : Good w c) {i : ι} {node : ν} (hash : UInt64) (fresh : ∀ j, node ∉ c j) :
    Good (hmapInsertFast w (.map i) node hash) (Function.update c i (node :: c i)) := by
  have confined := insertFastConfined node hash (good.owned i)
  have arrays : ∀ j, arraysOf (hmapInsertFast w (.map i) node hash) (.map j) = arraysOf w (.map j) := fun j => by
    simp [arraysOf]
  refine ⟨fun j => insertFastOwned node hash (good.owned j),fun j => by rw [insertFastMask]; exact good.shape j,
    fun j => ?_,fun j => ?_,?_,fun j k differ => by rw [arrays,arrays]; exact good.arraysApart j k differ⟩
  · by_cases here : j = i
    · subst here
      obtain ⟨cs,laid,perm⟩ := good.laid j
      have outside : node ∉ nodes (w.maps (.map j)).mask cs := fun there => fresh j (perm.subset there)
      refine ⟨_,insertFastLaid node hash (good.owned j) laid outside,?_⟩
      rw [insertFastMask,Function.update_self]
      exact (nodesPush (hashBucketLe ..) node).trans (perm.cons node)
    · have outside : Slot.map j ∉ ({.map i} : Set (Slot ι)) := by simpa using here
      obtain ⟨-,-,cs,laid,perm⟩ :=
        good.other confined outside (good.arraysApart j i here) fun v inside same => fresh j (same ▸ inside)
      exact ⟨cs,laid,by rw [Function.update_of_ne here]; exact perm⟩
  · by_cases here : j = i
    · subst here
      simp [insertFastN,good.count j]
    · simp [insertFastN,here,good.count j]
  · refine apartUpdate good.nodesApart fun k differ v inside inK => ?_
    rcases List.mem_cons.1 inside with rfl | old
    · exact fresh k inK
    · exact good.nodesApart i k (Ne.symm differ) old inK

theorem Good.remove (good : Good w c) {i : ι} {node : ν} {cs : Nat → List ν} (laid : Laid w (.map i) cs)
    (present : node ∈ c i) :
    ∃ w', hmapRemove w (.map i) node = .ok w' ∧ Good w' (Function.update c i ((c i).erase node)) ∧
      Laid w' (.map i) (Function.update cs (w.hash node &&& (w.maps (.map i)).mask).toNat
        ((cs (w.hash node &&& (w.maps (.map i)).mask).toNat).erase node)) ∧
      (w'.maps (.map i)).mask = (w.maps (.map i)).mask ∧ w'.hash = w.hash := by
  obtain ⟨cs',laid',perm⟩ := good.laid i
  have inside : node ∈ nodes (w.maps (.map i)).mask cs := by
    rw [laid.unique laid']
    exact perm.mem_iff.2 present
  obtain ⟨w',run,laidI,countI,bucketsI,maskI,confined⟩ :=
    removeSpec (good.owned i) laid inside (good.counted laid).le
  have home := hashBucketLe (w.hash node) (w.maps (.map i)).mask
  have arrays : ∀ j, arraysOf w' (.map j) = arraysOf w (.map j) := fun j => by
    by_cases here : j = i
    · subst here
      simp [arraysOf,bucketsI]
    · have outside : Slot.map j ∉ ({.map i} : Set (Slot ι)) := by simpa using here
      simp [arraysOf,confined.others _ outside]
  have others : ∀ j, j ≠ i → w'.maps (.map j) = w.maps (.map j) ∧ Owned w' (.map j) ∧
      ∃ cs, Laid w' (.map j) cs ∧ (nodes (w'.maps (.map j)).mask cs).Perm (c j) := fun j here =>
    good.other confined (by simpa using here) (good.arraysApart j i here)
      fun v inJ inI => good.nodesApart i j (Ne.symm here) (perm.subset (by rw [← laid.unique laid']; exact inI)) inJ
  refine ⟨w',run,⟨fun j => ?_,fun j => ?_,fun j => ?_,fun j => ?_,?_,
    fun j k differ => by rw [arrays,arrays]; exact good.arraysApart j k differ⟩,laidI,maskI,removeHash run⟩
  · by_cases here : j = i
    · subst here
      exact (good.owned j).keep bucketsI maskI confined.grows
    · exact (others j here).2.1
  · by_cases here : j = i
    · subst here
      rw [maskI]
      exact good.shape j
    · rw [(others j here).1]
      exact good.shape j
  · by_cases here : j = i
    · subst here
      refine ⟨_,laidI,?_⟩
      rw [maskI,Function.update_self,nodesErase home laid.nodup (laid.bucketOf inside),laid.unique laid']
      exact perm.erase node
    · rw [Function.update_of_ne here]
      exact (others j here).2.2
  · by_cases here : j = i
    · subst here
      rw [countI,Function.update_self,List.length_erase_of_mem present,good.count j]
    · rw [Function.update_of_ne here,(others j here).1,good.count j]
  · exact apartUpdate good.nodesApart fun k differ v inside inK =>
      good.nodesApart i k (Ne.symm differ) ((List.erase_subset) inside) inK

theorem Good.resize (good : Good w c) {i : ι} {newMask : UInt64} {e : Nat} (small : e < 64)
    (shape : newMask.toNat + 1 = 2 ^ e) (fits : 8 * 2 ^ e ≤ mallocMax) (addressable : mallocMax < 2 ^ 64) :
    ∃ w', resize mallocMax w (.map i) newMask = .ok w' ∧ Good w' c := by
  obtain ⟨cs,laid,perm⟩ := good.laid i
  obtain ⟨w',ct,run,ownedI,laidI,permI,maskI,countI,arraysI,confined⟩ :=
    resizeSpec (good.owned i) laid (good.counted laid) small shape fits addressable
  have others : ∀ j, j ≠ i → w'.maps (.map j) = w.maps (.map j) ∧ Owned w' (.map j) ∧
      ∃ cs, Laid w' (.map j) cs ∧ (nodes (w'.maps (.map j)).mask cs).Perm (c j) := fun j here =>
    good.other confined (by simp [here]) (Set.disjoint_singleton_right.2 fun mine => lt_irrefl _ (good.below mine))
      fun v inJ inI => good.nodesApart i j (Ne.symm here) (perm.subset inI) inJ
  have arraysOther : ∀ j, j ≠ i → Disjoint (arraysOf w' (.map i)) (arraysOf w' (.map j)) := fun j here => by
    have same : arraysOf w' (.map j) = arraysOf w (.map j) := by simp [arraysOf,(others j here).1]
    rw [same]
    exact Set.disjoint_of_subset_left arraysI
      (Set.disjoint_singleton_left.2 fun mine => lt_irrefl _ (good.below mine))
  refine ⟨w',run,⟨fun j => ?_,fun j => ?_,fun j => ?_,fun j => ?_,good.nodesApart,fun j k differ => ?_⟩⟩
  · by_cases here : j = i
    · subst here
      exact ownedI
    · exact (others j here).2.1
  · by_cases here : j = i
    · subst here
      exact ⟨e,small,by rw [maskI]; exact shape⟩
    · rw [(others j here).1]
      exact good.shape j
  · by_cases here : j = i
    · subst here
      exact ⟨ct,laidI,by rw [maskI]; exact permI.trans perm⟩
    · exact (others j here).2.2
  · by_cases here : j = i
    · subst here
      rw [countI,good.count j]
    · rw [(others j here).1,good.count j]
  · by_cases hj : j = i
    · subst hj
      exact arraysOther k (Ne.symm differ)
    · by_cases hk : k = i
      · subst hk
        exact (arraysOther j hj).symm
      · have sameJ : arraysOf w' (.map j) = arraysOf w (.map j) := by simp [arraysOf,(others j hj).1]
        have sameK : arraysOf w' (.map k) = arraysOf w (.map k) := by simp [arraysOf,(others k hk).1]
        rw [sameJ,sameK]
        exact good.arraysApart j k differ

omit [DecidableEq ν] in
theorem swapAt {i j : ι} (apart : i ≠ j) (owned : ∀ k, Owned w (.map k)) (k : ι) :
    Owned (hmapSwap w (.map i) (.map j)) (.map k) ∧
      (∀ b, (hmapSwap w (.map i) (.map j)).bucketAt (.map k) b = w.bucketAt (.map (Equiv.swap i j k)) b) ∧
      ((hmapSwap w (.map i) (.map j)).maps (.map k)).mask = (w.maps (.map (Equiv.swap i j k))).mask ∧
      ((hmapSwap w (.map i) (.map j)).maps (.map k)).n = (w.maps (.map (Equiv.swap i j k))).n ∧
      arraysOf (hmapSwap w (.map i) (.map j)) (.map k) = arraysOf w (.map (Equiv.swap i j k)) := by
  have slots : (Slot.map i : Slot ι) ≠ .map j := by simpa using apart
  by_cases hi : k = i
  · subst hi
    rw [Equiv.swap_apply_left]
    exact swapFirst slots (owned j)
  · by_cases hj : k = j
    · subst hj
      rw [Equiv.swap_apply_right]
      exact swapSecond slots (owned i)
    · rw [Equiv.swap_apply_of_ne_of_ne hi hj]
      have outside : Slot.map k ∉ ({.map i,.map j} : Set (Slot ι)) := by simp [hi,hj]
      have confined := swapConfined w slots
      have same := confined.others _ outside
      refine ⟨(owned k).keep (by rw [same]) (by rw [same]) confined.grows,
        confined.bucketAt outside (owned k) (Set.disjoint_empty _),by rw [same],by rw [same],by simp [arraysOf,same]⟩

omit [DecidableEq ν] in
theorem Good.swap (good : Good w c) (i j : ι) : Good (hmapSwap w (.map i) (.map j)) (c ∘ Equiv.swap i j) := by
  by_cases same : i = j
  · subst same
    rw [swapSelf,Equiv.swap_self,Equiv.coe_refl,Function.comp_id]
    exact good
  · have at_ := swapAt same good.owned
    refine ⟨fun k => (at_ k).1,fun k => by rw [(at_ k).2.2.1]; exact good.shape _,fun k => ?_,
      fun k => by rw [(at_ k).2.2.2.1,good.count]; rfl,
      fun k l differ => good.nodesApart _ _ ((Equiv.swap i j).injective.ne differ),
      fun k l differ => by
        rw [(at_ k).2.2.2.2,(at_ l).2.2.2.2]
        exact good.arraysApart _ _ ((Equiv.swap i j).injective.ne differ)⟩
    obtain ⟨cs,laid,perm⟩ := good.laid (Equiv.swap i j k)
    refine ⟨cs,laid.frame (at_ k).2.2.1 (fun b _ => (at_ k).2.1 b) fun v _ => ⟨by rw [swapNext],by rw [swapHash]⟩,?_⟩
    rw [(at_ k).2.2.1]
    exact perm

theorem Good.resizeCalc (good : Good w c) (i : ι) (capacity : UInt64)
    (fits : 8 * ((calcMask capacity).toNat + 1) ≤ mallocMax) (addressable : mallocMax < 2 ^ 64) :
    ∃ w', HashMap.resize mallocMax w (.map i) (calcMask capacity) = .ok w' ∧ Good w' c := by
  obtain ⟨e,small,shape⟩ := calcMaskShape capacity
  exact good.resize small shape (by rw [← shape]; exact fits) addressable

section Resizes
variable (addressable : mallocMax < 2 ^ 64)
include addressable

theorem Good.expand (good : Good w c) (i : ι) (fits : 8 * ((calcMask (c i).length.toUInt64).toNat + 1) ≤ mallocMax) :
    ∃ w', hmapExpand mallocMax w (.map i) = .ok w' ∧ Good w' c := by
  simp only [hmapExpand]
  split
  · exact good.resizeCalc i _ (by rw [good.count i]; exact fits) addressable
  · exact ⟨w,rfl,good⟩

theorem Good.shrink (good : Good w c) (i : ι) (fits : 8 * ((calcMask (c i).length.toUInt64).toNat + 1) ≤ mallocMax) :
    ∃ w', hmapShrink mallocMax w (.map i) = .ok w' ∧ Good w' c := by
  simp only [hmapShrink]
  split
  · exact good.resizeCalc i _ (by rw [good.count i]; exact fits) addressable
  · exact ⟨w,rfl,good⟩

theorem Good.reserve (good : Good w c) (i : ι) (n : UInt64) (fits : 8 * ((calcMask n).toNat + 1) ≤ mallocMax) :
    ∃ w', hmapReserve mallocMax w (.map i) n = .ok w' ∧ Good w' c := by
  simp only [hmapReserve]
  split
  · exact good.resizeCalc i n fits addressable
  · exact ⟨w,rfl,good⟩

theorem Good.insert (good : Good w c) {i : ι} {node : ν} (hash : UInt64) (fresh : ∀ j, node ∉ c j)
    (fits : 8 * ((calcMask ((c i).length + 1).toUInt64).toNat + 1) ≤ mallocMax) :
    ∃ w', hmapInsert mallocMax w (.map i) node hash = .ok w' ∧ Good w' (Function.update c i (node :: c i)) := by
  have inserted : Good (hmapInsertFast w (.map i) node hash) (Function.update c i (node :: c i)) :=
    good.insertFast hash fresh
  simp only [hmapInsert]
  split
  · exact inserted.expand addressable i (by rw [Function.update_self,List.length_cons]; exact fits)
  · exact ⟨_,rfl,inserted⟩

end Resizes

end Ops

section Abstract
variable [DecidableEq ι] [DecidableEq ν]

/- What a client operation does to the lists of its maps. -/
def HmapOp.apply : HmapOp ι ν → (ι → List ν) → ι → List ν
  | .insert i node _, c | .insertFast i node _, c => Function.update c i (node :: c i)
  | .remove i node, c => Function.update c i ((c i).erase node)
  | .swap i j, c => c ∘ Equiv.swap i j
  | .expand _, c | .shrink _, c | .reserve _ _, c => c

omit [DecidableEq ι] [DecidableEq ν] in
/- What the client may do: insert a node that is in no map, and remove a node of the map. -/
def HmapOp.allowed : HmapOp ι ν → (ι → List ν) → Prop
  | .insert _ node _, c | .insertFast _ node _, c => ∀ j, node ∉ c j
  | .remove i node, c => node ∈ c i
  | _, _ => True

/- Every operation of a run is allowed where it is applied. -/
def Allowed : (ι → List ν) → List (HmapOp ι ν) → Prop
  | _, [] => True
  | c, op :: ops => op.allowed c ∧ Allowed (op.apply c) ops

omit [DecidableEq ι] [DecidableEq ν] in
/- What an operation asks of malloc: the array of every mask calc_mask gives it, for the count it expands or
shrinks to or the size it reserves, fits in one block of `mallocMax` bytes. -/
def HmapOp.fits (mallocMax : Nat) : HmapOp ι ν → (ι → List ν) → Prop
  | .insert i _ _, c => 8 * ((calcMask ((c i).length + 1).toUInt64).toNat + 1) ≤ mallocMax
  | .expand i, c | .shrink i, c => 8 * ((calcMask (c i).length.toUInt64).toNat + 1) ≤ mallocMax
  | .reserve _ n, _ => 8 * ((calcMask n).toNat + 1) ≤ mallocMax
  | _, _ => True

/- Every operation of a run fits where it is applied. -/
def Fits (mallocMax : Nat) : (ι → List ν) → List (HmapOp ι ν) → Prop
  | _, [] => True
  | c, op :: ops => op.fits mallocMax c ∧ Fits mallocMax (op.apply c) ops

/- The lists after a run. -/
def listsAfter (c : ι → List ν) (ops : List (HmapOp ι ν)) : ι → List ν := ops.foldl (fun c op => op.apply c) c

end Abstract

section Runs
variable [DecidableEq ι] [DecidableEq ν]

theorem Good.step {w : World ι ν} {c : ι → List ν} {mallocMax : Nat} (addressable : mallocMax < 2 ^ 64)
    (good : Good w c) : ∀ op : HmapOp ι ν, op.allowed c → op.fits mallocMax c →
      ∃ w', hmapStep mallocMax w op = .ok w' ∧ Good w' (op.apply c)
  | .insert i node h, fresh, fits => good.insert addressable h fresh fits
  | .insertFast i node h, fresh, _ => ⟨_,rfl,good.insertFast h fresh⟩
  | .remove i node, present, _ => by
    obtain ⟨cs,laid,_⟩ := good.laid i
    obtain ⟨w',run,good',_⟩ := good.remove laid present
    exact ⟨w',run,good'⟩
  | .expand i, _, fits => good.expand addressable i fits
  | .shrink i, _, fits => good.shrink addressable i fits
  | .reserve i n, _, fits => good.reserve addressable i n fits
  | .swap i j, _, _ => ⟨_,rfl,good.swap i j⟩

theorem runGood {mallocMax : Nat} (addressable : mallocMax < 2 ^ 64) :
    ∀ (ops : List (HmapOp ι ν)) {w : World ι ν} {c : ι → List ν}, Good w c → Allowed c ops → Fits mallocMax c ops →
      ∃ w', ops.foldlM (hmapStep mallocMax) w = .ok w' ∧ Good w' (listsAfter c ops)
  | [], w, _, good, _, _ => ⟨w,rfl,good⟩
  | op :: ops, _, _, good, ⟨allowed,rest⟩, ⟨fits,restFits⟩ => by
    obtain ⟨w1,step,good1⟩ := good.step addressable op allowed fits
    obtain ⟨w',run,good'⟩ := runGood addressable ops good1 rest restFits
    refine ⟨w',?_,good'⟩
    rw [List.foldlM_cons,step]
    exact run

end Runs

end OpenFlow.HashMap
