import Mathlib
import OpenFlow.HmapChains

/-! resize and calc_mask. -/
namespace OpenFlow.HashMap
open Linked Search World

variable {ι ν : Type}

section Mask

theorem calcMaskSmear (capacity : UInt64) :
    (calcMask capacity).toNat =
      Bits.smear (capacity.toNat / 2) 6 ||| (Bits.smear (capacity.toNat / 2) 6 &&& 1) <<< 1 := by
  have low : ∀ x : Nat, (x % 2) <<< 1 % 18446744073709551616 = (x % 2) <<< 1 := fun x => by
    rw [Nat.shiftLeft_eq]
    exact Nat.mod_eq_of_lt (by omega)
  simp [calcMask,Bits.smear,UInt64.toNat_or,UInt64.toNat_shiftRight,UInt64.toNat_and,UInt64.toNat_shiftLeft,low]

theorem lowBitsKeep {k : Nat} (wide : 2 ≤ k) : (2 ^ k - 1) ||| ((2 ^ k - 1) &&& 1) <<< 1 = 2 ^ k - 1 := by
  have odd : (2 ^ k - 1) &&& 1 = 1 := by
    rw [Nat.and_one_is_mod]
    have double : 2 ^ k = 2 * 2 ^ (k - 1) := by
      rw [← pow_succ']
      congr 1
      omega
    have pos := Nat.two_pow_pos (k - 1)
    omega
  rw [odd]
  apply Nat.eq_of_testBit_eq
  intro i
  rw [Nat.testBit_or,Nat.testBit_two_pow_sub_one,show (1 : Nat) <<< 1 = 2 ^ 1 from rfl,Nat.testBit_two_pow]
  by_cases one : i = 1
  · subst one
    simp only [decide_true,Bool.or_true]
    exact (decide_eq_true (by omega)).symm
  · simp [Ne.symm one]

theorem calcMaskShape (capacity : UInt64) : ∃ e, e < 64 ∧ (calcMask capacity).toNat + 1 = 2 ^ e := by
  rw [calcMaskSmear]
  have half : capacity.toNat / 2 < 2 ^ 63 := by
    have := capacity.toNat_lt
    omega
  by_cases zero : capacity.toNat / 2 = 0
  · exact ⟨0,by omega,by rw [zero,Bits.smearZero]; rfl⟩
  · have top : (capacity.toNat / 2).log2 < 63 := (Nat.log2_lt zero).2 half
    rw [Bits.smearEq zero (lt_trans half (by norm_num))]
    by_cases single : (capacity.toNat / 2).log2 = 0
    · exact ⟨2,by omega,by rw [single]; rfl⟩
    · refine ⟨(capacity.toNat / 2).log2 + 1,by omega,?_⟩
      rw [lowBitsKeep (by omega)]
      have := Nat.two_pow_pos ((capacity.toNat / 2).log2 + 1)
      omega

theorem shapeAsserts {mask : UInt64} {e : Nat} (small : e < 64) (shape : mask.toNat + 1 = 2 ^ e) :
    mask &&& (mask + 1) = 0 ∧ mask ≠ sizeMax := by
  have bound : 2 ^ e < 2 ^ 64 := Nat.pow_lt_pow_right (by norm_num) small
  have next : (mask + 1).toNat = 2 ^ e := by
    rw [UInt64.toNat_add,UInt64.toNat_one,shape]
    exact Nat.mod_eq_of_lt bound
  constructor
  · apply UInt64.toNat_inj.1
    rw [UInt64.toNat_and,next,show mask.toNat = 2 ^ e - 1 by omega,Nat.land_comm,Nat.and_two_pow_sub_one_eq_mod,
      Nat.mod_self]
    rfl
  · intro same
    have top : mask.toNat = 2 ^ 64 - 1 := by
      rw [same]
      rfl
    have : 2 ^ e ≤ 2 ^ 63 := Nat.pow_le_pow_right (by norm_num) (by omega)
    omega

end Mask

section Start
variable [DecidableEq ι] (w : World ι ν) (newMask : UInt64) {mallocMax : Nat}
  (fits : 8 * (newMask.toNat + 1) ≤ mallocMax) (addressable : mallocMax < 2 ^ 64)
include fits addressable

theorem newBucketsOk :
    newBuckets mallocMax w newMask =
      .ok (World.setMap { w with arrays := Function.update w.arrays w.brk fun _ => none, brk := w.brk + 1 } .tmp
        { w.maps .tmp with buckets := .array w.brk, mask := newMask }) := by
  have size : (8 * (newMask + 1)).toNat = 8 * (newMask.toNat + 1) := by
    simp only [UInt64.toNat_mul,UInt64.toNat_add,UInt64.toNat_one,UInt64.reduceToNat]
    omega
  have block : ¬mallocMax < max (8 * (newMask.toNat + 1)) 1 := by omega
  simp only [newBuckets,xmalloc,size,block,if_false,lt_irrefl]
  rfl

theorem tmpStart :
    ∃ w1, (if newMask ≠ 0 then newBuckets mallocMax (hmapInit w .tmp) newMask else pure (hmapInit w .tmp)) = .ok w1 ∧
      Owned w1 .tmp ∧ Laid w1 .tmp (fun _ => []) ∧ (w1.maps .tmp).mask = newMask ∧ (w1.maps .tmp).n = 0 ∧
      arraysOf w1 .tmp ⊆ {w.brk} ∧ Confined w w1 {.tmp} {w.brk} ∅ := by
  by_cases zero : newMask = 0
  · rw [if_neg (not_not.2 zero)]
    refine ⟨_,rfl,.inl ⟨by simp [hmapInit],by simp [hmapInit]⟩,
      Laid.empty fun b => by simp [hmapInit,World.bucketAt,World.cell,World.read],by simp [hmapInit,zero],
      by simp [hmapInit],fun k mine => by simp [arraysOf,hmapInit] at mine,
      (setMapConfined _).mono le_rfl (by simp) le_rfl⟩
  · rw [if_pos zero,newBucketsOk _ newMask fits addressable]
    refine ⟨_,rfl,.inr ⟨w.brk,by simp [hmapInit],by simp [hmapInit]⟩,
      Laid.empty fun b => by simp [hmapInit,World.bucketAt,World.cell,World.read],
      by simp [hmapInit],by simp [hmapInit],
      fun k mine => by simp [arraysOf,hmapInit] at mine; simp [mine],?_⟩
    exact { others := fun t outside => by simp [hmapInit,show t ≠ .tmp from outside]
            kept := fun k outside => by simp [hmapInit,show k ≠ w.brk from outside]
            links := fun _ _ => rfl
            hashes := fun _ _ => rfl
            grows := by simp [hmapInit] }

end Start

section Move
variable [DecidableEq ι] [DecidableEq ν]

theorem moveChainSpec : ∀ {rest : List ν} {w : World ι ν} {cur : Option ν} {ct : Nat → List ν} {fuel : Nat},
    Owned w .tmp → Laid w .tmp ct → Chain w.next cur rest → (∀ v ∈ rest, v ∉ nodes (w.maps .tmp).mask ct) →
    rest.length ≤ fuel →
    ∃ w' ct', moveChain w cur fuel = .ok w' ∧ Owned w' .tmp ∧ Laid w' .tmp ct' ∧
      (nodes (w'.maps .tmp).mask ct').Perm (rest ++ nodes (w.maps .tmp).mask ct) ∧
      (w'.maps .tmp).n = (w.maps .tmp).n + rest.length ∧ (w'.maps .tmp).buckets = (w.maps .tmp).buckets ∧
      (w'.maps .tmp).mask = (w.maps .tmp).mask ∧ Confined w w' {.tmp} (arraysOf w .tmp) {v | v ∈ rest}
  | [], w, cur, ct, fuel, owned, laid, chain, _, _ => by
    have null : cur = none := chain.headEq
    subst null
    exact ⟨w,ct,by cases fuel <;> rfl,owned,laid,by simp,by simp,rfl,rfl,
      (Confined.refl w).mono (by simp) (by simp) (by simp)⟩
  | _ :: _, _, _, _, 0, _, _, _, _, enough => absurd enough (by simp)
  | v :: rest, w, cur, ct, fuel + 1, owned, laid, chain, fresh, enough => by
    have head : cur = some v := chain.headEq
    subst head
    have outside : v ∉ nodes (w.maps .tmp).mask ct := fresh v List.mem_cons_self
    have later : v ∉ rest := (List.nodup_cons.1 chain.nodup).1
    have chain' : Chain (hmapInsertFast w .tmp v (w.hash v)).next (w.next v) rest := by
      rw [insertFastNext]
      exact chain.tail.update later
    have home := hashBucketLe (w.hash v) (w.maps .tmp).mask
    have grown : (nodes (w.maps .tmp).mask (Function.update ct (w.hash v &&& (w.maps .tmp).mask).toNat
        (v :: ct (w.hash v &&& (w.maps .tmp).mask).toNat))).Perm (v :: nodes (w.maps .tmp).mask ct) :=
      nodesPush home v
    have fresh' : ∀ u ∈ rest, u ∉ nodes ((hmapInsertFast w .tmp v (w.hash v)).maps .tmp).mask
        (Function.update ct (w.hash v &&& (w.maps .tmp).mask).toNat (v :: ct (w.hash v &&& (w.maps .tmp).mask).toNat)) := by
      intro u inside there
      rw [insertFastMask] at there
      rcases List.mem_cons.1 (grown.subset there) with same | old
      · exact later (same ▸ inside)
      · exact fresh u (List.mem_cons_of_mem v inside) old
    obtain ⟨w',ct',run,owned',laid',perm',count',buckets',mask',confined'⟩ :=
      moveChainSpec (insertFastOwned v (w.hash v) owned) (insertFastLaid v (w.hash v) owned laid outside) chain'
        fresh' (by simp at enough; omega)
    refine ⟨w',ct',run,owned',laid',?_,?_,by rw [buckets',insertFastBuckets],by rw [mask',insertFastMask],?_⟩
    · rw [insertFastMask] at perm'
      exact perm'.trans ((grown.append_left rest).trans List.perm_middle)
    · rw [count',insertFastN,if_pos rfl,List.length_cons]
      omega
    · have same : arraysOf (hmapInsertFast w .tmp v (w.hash v)) .tmp = arraysOf w .tmp := by
        simp [arraysOf]
      refine ((insertFastConfined v (w.hash v) owned).trans confined').mono (by simp) (by rw [same]; simp) ?_
      intro u inside
      simp at inside ⊢
      tauto

/- Where resize's outer loop stands after the buckets below `b`: `tmp` holds their nodes in storage of its
own, and nothing else has changed but `tmp` and the links of those nodes. -/
structure Moved (w0 w : World ι ν) (s : Slot ι) (cs : Nat → List ν) (b : Nat) : Prop where
  owned : Owned w .tmp
  laid : ∃ ct, Laid w .tmp ct ∧ (nodes (w.maps .tmp).mask ct).Perm ((List.range b).flatMap cs)
  count : (w.maps .tmp).n = (w0.maps .tmp).n + ((List.range b).flatMap cs).length
  buckets : (w.maps .tmp).buckets = (w0.maps .tmp).buckets
  mask : (w.maps .tmp).mask = (w0.maps .tmp).mask
  confined : Confined w0 w {.tmp} (arraysOf w0 .tmp) {v | v ∈ (List.range b).flatMap cs}

section Loop
variable {w0 : World ι ν} {s : Slot ι} {cs : Nat → List ν}
variable (client : s ≠ .tmp) (owned : Owned w0 s) (apart : Disjoint (arraysOf w0 s) (arraysOf w0 .tmp))
  (laid : Laid w0 s cs) (counted : (nodes (w0.maps s).mask cs).length ≤ (w0.maps s).n)
include client owned apart laid counted

theorem movedStep {w : World ι ν} {b : Nat} (moved : Moved w0 w s cs b) (within : b ≤ (w0.maps s).mask.toNat) :
    ∃ w', moveChain w (w.bucketAt s b) (w.maps s).n = .ok w' ∧ Moved w0 w' s cs (b + 1) := by
  have outside : s ∉ ({.tmp} : Set (Slot ι)) := client
  have same : w.maps s = w0.maps s := moved.confined.others s outside
  have bucket : w.bucketAt s b = w0.bucketAt s b :=
    moved.confined.bucketAt outside owned apart b
  have distinct := laid.nodup
  rw [nodesSplit within] at distinct
  have unmoved : ∀ v ∈ cs b, v ∉ (List.range b).flatMap cs := fun v here there =>
    List.disjoint_of_nodup_append (List.nodup_append.1 distinct).1 there here
  have chain : Chain w.next (w.bucketAt s b) (cs b) := by
    rw [bucket]
    exact (laid b within).1.frame fun v here => moved.confined.links v (unmoved v here)
  obtain ⟨ct,laidTmp,perm⟩ := moved.laid
  have fresh : ∀ v ∈ cs b, v ∉ nodes (w.maps .tmp).mask ct := fun v here there =>
    unmoved v here (perm.subset there)
  have fuel : (cs b).length ≤ (w.maps s).n := by
    rw [same]
    refine le_trans ?_ counted
    rw [nodesSplit within]
    simp only [List.length_append]
    omega
  obtain ⟨w',ct',run,owned',laid',perm',count',buckets',mask',confined'⟩ :=
    moveChainSpec moved.owned laidTmp chain fresh fuel
  have rangeNext : (List.range (b + 1)).flatMap cs = (List.range b).flatMap cs ++ cs b := by
    simp [List.range_succ]
  refine ⟨w',run,⟨owned',⟨ct',laid',?_⟩,?_,by rw [buckets',moved.buckets],by rw [mask',moved.mask],?_⟩⟩
  · rw [rangeNext]
    exact perm'.trans (((perm.append_left (cs b))).trans List.perm_append_comm)
  · rw [count',moved.count,rangeNext,List.length_append]
    omega
  · have arrays : arraysOf w .tmp = arraysOf w0 .tmp := by
      simp [arraysOf,moved.buckets]
    refine (moved.confined.trans confined').mono (by simp) (by rw [arrays]; simp) ?_
    intro v inside
    rw [rangeNext]
    simp at inside ⊢
    tauto

theorem movedLoop : ∀ (k b : Nat) {w : World ι ν}, Moved w0 w s cs b → b + k ≤ (w0.maps s).mask.toNat + 1 →
    ∃ w', (List.range' b k).foldlM (fun w i => moveChain w (w.bucketAt s i) (w.maps s).n) w = .ok w' ∧
      Moved w0 w' s cs (b + k)
  | 0, b, w, moved, _ => ⟨w,rfl,moved⟩
  | k + 1, b, w, moved, enough => by
    obtain ⟨w1,run,moved1⟩ := movedStep client owned apart laid counted moved (by omega)
    obtain ⟨w',rest,moved'⟩ := movedLoop k (b + 1) moved1 (by omega)
    refine ⟨w',?_,by rw [show b + (k + 1) = b + 1 + k by omega]; exact moved'⟩
    rw [List.range'_succ,List.foldlM_cons,run]
    exact rest

end Loop

end Move

section Swap
variable [DecidableEq ι] (w : World ι ν) {a b : Slot ι}

theorem swapMaps (apart : a ≠ b) (t : Slot ι) :
    (hmapSwap w a b).maps t =
      if t = a then (if (w.maps b).buckets = .one b then { w.maps b with buckets := .one a } else w.maps b)
      else if t = b then (if (w.maps a).buckets = .one a then { w.maps a with buckets := .one b } else w.maps a)
      else w.maps t := by
  by_cases atA : t = a
  · subst atA
    by_cases oneB : (w.maps b).buckets = .one b <;> by_cases oneA : (w.maps t).buckets = .one t <;>
      simp [hmapSwap,apart,Ne.symm apart,oneA,oneB]
  · by_cases atB : t = b
    · subst atB
      by_cases oneB : (w.maps t).buckets = .one t <;> by_cases oneA : (w.maps a).buckets = .one a <;>
        simp [hmapSwap,apart,Ne.symm apart,oneA,oneB]
    · -- the swap writes only `a` and `b`
      rw [if_neg atA,if_neg atB]
      simp only [hmapSwap]
      split_ifs <;> simp [atA,atB]

theorem swapSelf (a : Slot ι) : hmapSwap w a a = w := by
  have keep : (w.maps a).buckets = .one a → w.setMap a { w.maps a with buckets := .one a } = w := fun one => by
    rw [← one]
    exact setMapSame w a
  simp only [hmapSwap,setMapSame]
  by_cases one : (w.maps a).buckets = .one a
  · rw [if_pos one,keep one,if_pos one,keep one]
  · rw [if_neg one,if_neg one]

@[simp] theorem swapNext : (hmapSwap w a b).next = w.next := by
  simp only [hmapSwap]
  split_ifs <;> rfl

@[simp] theorem swapHash : (hmapSwap w a b).hash = w.hash := by
  simp only [hmapSwap]
  split_ifs <;> rfl

@[simp] theorem swapArrays : (hmapSwap w a b).arrays = w.arrays := by
  simp only [hmapSwap]
  split_ifs <;> rfl

@[simp] theorem swapBrk : (hmapSwap w a b).brk = w.brk := by
  simp only [hmapSwap]
  split_ifs <;> rfl

theorem swapConfined (apart : a ≠ b) : Confined w (hmapSwap w a b) {a,b} ∅ ∅ where
  others t outside := by
    simp only [Set.mem_insert_iff,Set.mem_singleton_iff,not_or] at outside
    rw [swapMaps w apart,if_neg outside.1,if_neg outside.2]
  kept _ _ := by rw [swapArrays]
  links _ _ := by rw [swapNext]
  hashes _ _ := by rw [swapHash]
  grows := (swapBrk w).ge

variable {w}

theorem swapFirst (apart : a ≠ b) (owned : Owned w b) :
    Owned (hmapSwap w a b) a ∧ (∀ i, (hmapSwap w a b).bucketAt a i = w.bucketAt b i) ∧
      ((hmapSwap w a b).maps a).mask = (w.maps b).mask ∧ ((hmapSwap w a b).maps a).n = (w.maps b).n ∧
      arraysOf (hmapSwap w a b) a = arraysOf w b := by
  have maps := swapMaps w apart a
  rw [if_pos rfl] at maps
  rcases owned with ⟨one,empty⟩ | ⟨k,array,below⟩
  · rw [if_pos one] at maps
    refine ⟨.inl ⟨by simp [maps],by simp [maps,empty]⟩,fun i => ?_,by simp [maps],by simp [maps],?_⟩
    · simp [World.bucketAt,World.cell,World.read,maps,one]
    · ext k
      simp [arraysOf,maps,one]
  · have notOne : (w.maps b).buckets ≠ .one b := by simp [array]
    rw [if_neg notOne] at maps
    refine ⟨.inr ⟨k,by simp [maps,array],by simp [below]⟩,fun i => ?_,by simp [maps],by simp [maps],?_⟩
    · simp [World.bucketAt,World.cell,World.read,maps,array]
    · ext k
      simp [arraysOf,maps]

theorem swapSecond (apart : a ≠ b) (owned : Owned w a) :
    Owned (hmapSwap w a b) b ∧ (∀ i, (hmapSwap w a b).bucketAt b i = w.bucketAt a i) ∧
      ((hmapSwap w a b).maps b).mask = (w.maps a).mask ∧ ((hmapSwap w a b).maps b).n = (w.maps a).n ∧
      arraysOf (hmapSwap w a b) b = arraysOf w a := by
  have maps := swapMaps w apart b
  rw [if_neg (Ne.symm apart),if_pos rfl] at maps
  rcases owned with ⟨one,empty⟩ | ⟨k,array,below⟩
  · rw [if_pos one] at maps
    refine ⟨.inl ⟨by simp [maps],by simp [maps,empty]⟩,fun i => ?_,by simp [maps],by simp [maps],?_⟩
    · simp [World.bucketAt,World.cell,World.read,maps,one]
    · ext k
      simp [arraysOf,maps,one]
  · have notOne : (w.maps a).buckets ≠ .one a := by simp [array]
    rw [if_neg notOne] at maps
    refine ⟨.inr ⟨k,by simp [maps,array],by simp [below]⟩,fun i => ?_,by simp [maps],by simp [maps],?_⟩
    · simp [World.bucketAt,World.cell,World.read,maps,array]
    · ext k
      simp [arraysOf,maps]

end Swap

section Resize
variable [DecidableEq ι] [DecidableEq ν] {w : World ι ν} {i : ι} {cs : Nat → List ν} {mallocMax : Nat}

theorem resizeSpec {newMask : UInt64} {e : Nat} (owned : Owned w (.map i)) (laid : Laid w (.map i) cs)
    (counted : (nodes (w.maps (.map i)).mask cs).length = (w.maps (.map i)).n)
    (small : e < 64) (shape : newMask.toNat + 1 = 2 ^ e) (fits : 8 * 2 ^ e ≤ mallocMax) (addressable : mallocMax < 2 ^ 64) :
    ∃ w' ct, resize mallocMax w (.map i) newMask = .ok w' ∧ Owned w' (.map i) ∧ Laid w' (.map i) ct ∧
      (nodes newMask ct).Perm (nodes (w.maps (.map i)).mask cs) ∧ (w'.maps (.map i)).mask = newMask ∧
      (w'.maps (.map i)).n = (w.maps (.map i)).n ∧ arraysOf w' (.map i) ⊆ {w.brk} ∧
      Confined w w' {.map i,.tmp} {w.brk} {v | v ∈ nodes (w.maps (.map i)).mask cs} := by
  obtain ⟨clear,notMax⟩ := shapeAsserts small shape
  have client : (Slot.map i : Slot ι) ≠ .tmp := by simp
  have outside : (Slot.map i : Slot ι) ∉ ({.tmp} : Set (Slot ι)) := client
  obtain ⟨w1,start,ownedTmp,laidTmp,maskTmp,countTmp,arraysTmp,confined1⟩ :=
    tmpStart w newMask (by rw [shape]; exact fits) addressable
  have same : w1.maps (.map i) = w.maps (.map i) := confined1.others _ outside
  have below : ∀ k ∈ arraysOf w (.map i), k < w.brk := fun k mine => by
    rcases owned with ⟨one,_⟩ | ⟨k',array,under⟩
    · simp [arraysOf,one] at mine
    · simp only [arraysOf,Set.mem_ofPred_eq,array,Buckets.array.injEq] at mine
      omega
  have apartFresh : Disjoint (arraysOf w (.map i)) {w.brk} :=
    Set.disjoint_singleton_right.2 fun mine => lt_irrefl _ (below _ mine)
  have arraysSame : arraysOf w1 (.map i) = arraysOf w (.map i) := by simp [arraysOf,same]
  have owned1 : Owned w1 (.map i) := owned.keep (by rw [same]) (by rw [same]) confined1.grows
  have laid1 : Laid w1 (.map i) cs :=
    confined1.laid outside owned apartFresh (fun _ _ inside => inside) laid
  have apart1 : Disjoint (arraysOf w1 (.map i)) (arraysOf w1 .tmp) := by
    rw [arraysSame]
    exact apartFresh.mono_right arraysTmp
  have counted1 : (nodes (w1.maps (.map i)).mask cs).length ≤ (w1.maps (.map i)).n := by
    rw [same,counted]
  have start0 : Moved w1 w1 (.map i) cs 0 :=
    ⟨ownedTmp,⟨fun _ => [],laidTmp,by simp [nodes]⟩,by simp,rfl,rfl,
      (Confined.refl w1).mono (by simp) (by simp) (by simp)⟩
  obtain ⟨w2,moving,moved⟩ := movedLoop client owned1 apart1 laid1 counted1 ((w1.maps (.map i)).mask.toNat + 1) 0
    start0 (by omega)
  have run : moveNodes w1 (.map i) = .ok w2 := by
    rw [moveNodes,List.range_eq_range']
    exact moving
  obtain ⟨ct,laid2,perm2⟩ := moved.laid
  obtain ⟨ownedI,reads,maskI,countI,arraysI⟩ := swapFirst client moved.owned
  have resized : resize mallocMax w (.map i) newMask = .ok (hmapSwap w2 (.map i) .tmp) := by
    rw [resize]
    simp only [clear,notMax,ne_eq,not_true_eq_false,if_false]
    split
    · next nonzero =>
      rw [if_pos nonzero] at start
      simp only [start,run,bind,Except.bind,pure,Except.pure,hmapDestroy]
    · next zero =>
      rw [if_neg zero] at start
      obtain rfl : hmapInit w .tmp = w1 := Except.ok.inj start
      simp only [run,bind,Except.bind,pure,Except.pure,hmapDestroy]
  refine ⟨_,ct,resized,ownedI,?_,?_,?_,?_,?_,?_⟩
  · exact laid2.frame maskI (fun b _ => reads b) fun v _ => ⟨by rw [swapNext],by rw [swapHash]⟩
  · rw [moved.mask,maskTmp,same,Nat.zero_add] at perm2
    exact perm2
  · rw [maskI,moved.mask,maskTmp]
  · rw [countI,moved.count,countTmp,same,Nat.zero_add,Nat.zero_add]
    exact counted
  · rw [arraysI,show arraysOf w2 .tmp = arraysOf w1 .tmp by simp [arraysOf,moved.buckets]]
    exact arraysTmp
  · have arrays1 : arraysOf w1 .tmp ⊆ {w.brk} := arraysTmp
    refine ((confined1.trans moved.confined).trans (swapConfined w2 client)).mono ?_ ?_ ?_
    · intro t inside
      simp at inside ⊢
      tauto
    · intro k inside
      simp only [Set.mem_union,Set.mem_empty_iff_false,or_false] at inside
      rcases inside with fresh | mine
      · exact fresh
      · exact arrays1 mine
    · intro v inside
      simp [same,nodes] at inside ⊢
      tauto

end Resize

end OpenFlow.HashMap
