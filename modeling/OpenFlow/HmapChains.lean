import Mathlib
import OpenFlow.Hmap

/-! The chains of an hmap's buckets. -/
namespace OpenFlow.HashMap
open Linked Search World

variable {ι ν : Type}

/- The bucket pointer of `s` points at its own `one`, and then the mask is 0, or at an array the allocator has
handed out. -/
def Owned (w : World ι ν) (s : Slot ι) : Prop :=
  (w.maps s).buckets = .one s ∧ (w.maps s).mask = 0 ∨ ∃ k, (w.maps s).buckets = .array k ∧ k < w.brk

/- Bucket `b` of `s` holds the chain `cs b`, and each node there hashes to `b`. -/
def Laid (w : World ι ν) (s : Slot ι) (cs : Nat → List ν) : Prop :=
  ∀ b ≤ (w.maps s).mask.toNat, Chain w.next (w.bucketAt s b) (cs b) ∧ ∀ v ∈ cs b, (w.hash v &&& (w.maps s).mask).toNat = b

/- The nodes of a map in the order of its buckets. -/
def nodes (mask : UInt64) (cs : Nat → List ν) : List ν := (List.range (mask.toNat + 1)).flatMap cs

/- The heap arrays that slot `s` uses. -/
def arraysOf (w : World ι ν) (s : Slot ι) : Set Nat := {k | (w.maps s).buckets = .array k}

/- What an operation may change: the maps of the slots in `slots`, the heap arrays in `arrays`, and the links
and hashes of the nodes in `touched`; the allocator only moves up. -/
structure Confined (w w' : World ι ν) (slots : Set (Slot ι)) (arrays : Set Nat) (touched : Set ν) : Prop where
  others : ∀ t ∉ slots, w'.maps t = w.maps t
  kept : ∀ k ∉ arrays, w'.arrays k = w.arrays k
  links : ∀ v ∉ touched, w'.next v = w.next v
  hashes : ∀ v ∉ touched, w'.hash v = w.hash v
  grows : w.brk ≤ w'.brk

section Lists
variable {mask : UInt64} {cs : Nat → List ν}

theorem hashBucketLe (hash mask : UInt64) : (hash &&& mask).toNat ≤ mask.toNat := by
  rw [UInt64.toNat_and]
  exact Nat.and_le_right

theorem memNodes {v : ν} : v ∈ nodes mask cs ↔ ∃ b ≤ mask.toNat, v ∈ cs b := by
  simp [nodes]

theorem rangeSplit {b m : Nat} (within : b ≤ m) : List.range (m + 1) = List.range b ++ b :: List.range' (b + 1) (m - b) := by
  rw [List.range_eq_range',List.range_eq_range',show m + 1 = b + (m - b + 1) by omega,← List.range'_append_1,
    List.range'_succ,Nat.zero_add]

theorem nodesSplit {b : Nat} (within : b ≤ mask.toNat) :
    nodes mask cs = (List.range b).flatMap cs ++ cs b ++ (List.range' (b + 1) (mask.toNat - b)).flatMap cs := by
  rw [nodes,rangeSplit within,List.flatMap_append,List.flatMap_cons,List.append_assoc]

theorem nodesUpdate {b : Nat} (within : b ≤ mask.toNat) (l : List ν) :
    nodes mask (Function.update cs b l) =
      (List.range b).flatMap cs ++ l ++ (List.range' (b + 1) (mask.toNat - b)).flatMap cs := by
  rw [nodesSplit within,Function.update_self]
  have before : (List.range b).flatMap (Function.update cs b l) = (List.range b).flatMap cs :=
    List.flatMap_congr fun x inside => by
      have differ : x ≠ b := by
        rw [List.mem_range] at inside
        omega
      rw [Function.update_of_ne differ]
  have after : (List.range' (b + 1) (mask.toNat - b)).flatMap (Function.update cs b l) =
      (List.range' (b + 1) (mask.toNat - b)).flatMap cs :=
    List.flatMap_congr fun x inside => by
      have differ : x ≠ b := by
        rw [List.mem_range'_1] at inside
        omega
      rw [Function.update_of_ne differ]
  rw [before,after]

theorem nodesPush {b : Nat} (within : b ≤ mask.toNat) (node : ν) :
    (nodes mask (Function.update cs b (node :: cs b))).Perm (node :: nodes mask cs) := by
  rw [nodesUpdate within,nodesSplit within,List.append_assoc,List.append_assoc,List.cons_append]
  exact List.perm_middle

theorem nodesErase [DecidableEq ν] {b : Nat} (within : b ≤ mask.toNat) {node : ν}
    (distinct : (nodes mask cs).Nodup) (inside : node ∈ cs b) :
    nodes mask (Function.update cs b ((cs b).erase node)) = (nodes mask cs).erase node := by
  rw [nodesUpdate within,nodesSplit within] at *
  have outside : node ∉ (List.range b).flatMap cs := fun before =>
    List.disjoint_of_nodup_append (List.nodup_append.1 distinct).1 before inside
  rw [List.append_assoc,List.append_assoc,List.erase_append_right _ outside,
    List.erase_append_left _ inside]

end Lists

section Cells
variable {w : World ι ν} {s t : Slot ι}

theorem cellsInj (owned : Owned w s) {b b' : Nat} (within : b ≤ (w.maps s).mask.toNat)
    (within' : b' ≤ (w.maps s).mask.toNat) (same : w.cell s b = w.cell s b') : b = b' := by
  rcases owned with ⟨one,empty⟩ | ⟨k,array,_⟩
  · rw [empty] at within within'
    simp at within within'
    omega
  · simpa [World.cell,array] using same

theorem Confined.bucketAt {w' : World ι ν} {slots : Set (Slot ι)} {arrays : Set Nat} {touched : Set ν}
    (confined : Confined w w' slots arrays touched) (outside : t ∉ slots) (owned : Owned w t)
    (apart : Disjoint (arraysOf w t) arrays) (b : Nat) : w'.bucketAt t b = w.bucketAt t b := by
  have same := confined.others t outside
  rw [World.bucketAt,World.bucketAt,cellCongr (congrArg Hmap.buckets same)]
  rcases owned with ⟨one,_⟩ | ⟨k,array,_⟩
  · simp only [World.cell,one,World.read,same]
  · have mine : k ∈ arraysOf w t := array
    simp only [World.cell,array,World.read,confined.kept k (Set.disjoint_left.1 apart mine)]

theorem Confined.trans {w' w'' : World ι ν} {slots slots' : Set (Slot ι)} {arrays arrays' : Set Nat}
    {touched touched' : Set ν} (first : Confined w w' slots arrays touched) (second : Confined w' w'' slots' arrays' touched') :
    Confined w w'' (slots ∪ slots') (arrays ∪ arrays') (touched ∪ touched') where
  others t outside := by
    simp only [Set.mem_union,not_or] at outside
    rw [second.others t outside.2,first.others t outside.1]
  kept k outside := by
    simp only [Set.mem_union,not_or] at outside
    rw [second.kept k outside.2,first.kept k outside.1]
  links v outside := by
    simp only [Set.mem_union,not_or] at outside
    rw [second.links v outside.2,first.links v outside.1]
  hashes v outside := by
    simp only [Set.mem_union,not_or] at outside
    rw [second.hashes v outside.2,first.hashes v outside.1]
  grows := first.grows.trans second.grows

theorem Confined.refl (w : World ι ν) : Confined w w ∅ ∅ ∅ :=
  ⟨fun _ _ => rfl,fun _ _ => rfl,fun _ _ => rfl,fun _ _ => rfl,le_rfl⟩

theorem Confined.mono {w' : World ι ν} {slots slots' : Set (Slot ι)} {arrays arrays' : Set Nat} {touched touched' : Set ν}
    (confined : Confined w w' slots arrays touched) (moreSlots : slots ⊆ slots') (moreArrays : arrays ⊆ arrays')
    (moreTouched : touched ⊆ touched') : Confined w w' slots' arrays' touched' where
  others t outside := confined.others t fun inside => outside (moreSlots inside)
  kept k outside := confined.kept k fun inside => outside (moreArrays inside)
  links v outside := confined.links v fun inside => outside (moreTouched inside)
  hashes v outside := confined.hashes v fun inside => outside (moreTouched inside)
  grows := confined.grows

theorem Owned.keep {w' : World ι ν} (owned : Owned w s) (buckets : (w'.maps s).buckets = (w.maps s).buckets)
    (mask : (w'.maps s).mask = (w.maps s).mask) (grows : w.brk ≤ w'.brk) : Owned w' s := by
  unfold Owned
  rw [buckets,mask]
  rcases owned with one | ⟨k,array,below⟩
  · exact .inl one
  · exact .inr ⟨k,array,lt_of_lt_of_le below grows⟩

end Cells

section Laid
variable {w w' : World ι ν} {s t : Slot ι} {cs : Nat → List ν}

theorem Laid.bucketOf (laid : Laid w s cs) {v : ν} (inside : v ∈ nodes (w.maps s).mask cs) :
    v ∈ cs (w.hash v &&& (w.maps s).mask).toNat := by
  obtain ⟨b,within,there⟩ := memNodes.1 inside
  rw [(laid b within).2 v there]
  exact there

theorem Laid.unique {cs' : Nat → List ν} (laid : Laid w s cs) (laid' : Laid w s cs') :
    nodes (w.maps s).mask cs = nodes (w.maps s).mask cs' :=
  List.flatMap_congr fun b inside => by
    have within : b ≤ (w.maps s).mask.toNat := by
      rw [List.mem_range] at inside
      omega
    exact (laid b within).1.unique (laid' b within).1

theorem Laid.nodup (laid : Laid w s cs) : (nodes (w.maps s).mask cs).Nodup := by
  refine List.nodup_flatMap.2 ⟨fun b inside => (laid b ?_).1.nodup,?_⟩
  · simp at inside
    omega
  · refine List.nodup_range.imp_of_mem fun {a b} insideA insideB differ => ?_
    intro v inA inB
    simp at insideA insideB
    exact differ (((laid a (by omega)).2 v inA).symm.trans ((laid b (by omega)).2 v inB))

theorem Laid.frame (laid : Laid w s cs) (mask : (w'.maps t).mask = (w.maps s).mask)
    (buckets : ∀ b ≤ (w.maps s).mask.toNat, w'.bucketAt t b = w.bucketAt s b)
    (links : ∀ v ∈ nodes (w.maps s).mask cs, w'.next v = w.next v ∧ w'.hash v = w.hash v) : Laid w' t cs := by
  intro b within
  rw [mask] at within ⊢
  obtain ⟨chain,placed⟩ := laid b within
  have own : ∀ v ∈ cs b, v ∈ nodes (w.maps s).mask cs := fun v inside => memNodes.2 ⟨b,within,inside⟩
  refine ⟨?_,fun v inside => ?_⟩
  · rw [buckets b within]
    exact chain.frame fun v inside => (links v (own v inside)).1
  · rw [(links v (own v inside)).2]
    exact placed v inside

theorem Confined.laid {arrays : Set Nat} {touched : Set ν} {slots : Set (Slot ι)}
    (confined : Confined w w' slots arrays touched) (outside : t ∉ slots) (owned : Owned w t)
    (apart : Disjoint (arraysOf w t) arrays) (untouched : ∀ v ∈ nodes (w.maps t).mask cs, v ∉ touched)
    (laid : Laid w t cs) : Laid w' t cs :=
  laid.frame (by rw [confined.others t outside]) (fun b _ => confined.bucketAt outside owned apart b)
    fun v inside => ⟨confined.links v (untouched v inside),confined.hashes v (untouched v inside)⟩

theorem Laid.empty (null : ∀ b, w.bucketAt s b = none) : Laid w s (fun _ => []) := fun b _ => by
  rw [null b]
  exact ⟨.nil,fun v inside => by cases inside⟩

theorem Laid.rebucket (laid : Laid w s cs) {b : Nat} {l : List ν} (mask : (w'.maps s).mask = (w.maps s).mask)
    (hashes : ∀ v ∈ nodes (w.maps s).mask cs, w'.hash v = w.hash v)
    (others : ∀ b' ≤ (w.maps s).mask.toNat, b' ≠ b → Chain w'.next (w'.bucketAt s b') (cs b'))
    (here : Chain w'.next (w'.bucketAt s b) l) (placedHere : ∀ v ∈ l, (w'.hash v &&& (w.maps s).mask).toNat = b) :
    Laid w' s (Function.update cs b l) := by
  intro b' inside
  rw [mask] at inside ⊢
  have placed : ∀ v ∈ cs b', (w'.hash v &&& (w.maps s).mask).toNat = b' := fun v there => by
    rw [hashes v (memNodes.2 ⟨b',inside,there⟩)]
    exact (laid b' inside).2 v there
  by_cases same : b' = b
  · subst same
    rw [Function.update_self]
    exact ⟨here,placedHere⟩
  · rw [Function.update_of_ne same]
    exact ⟨others b' inside same,placed⟩

end Laid

section Writes
variable [DecidableEq ι] {w : World ι ν} {s : Slot ι}

theorem setMapConfined (h : Hmap ι ν) : Confined w (w.setMap s h) {s} ∅ ∅ where
  others t outside := by
    have differ : t ≠ s := outside
    simp [differ]
  kept _ _ := rfl
  links _ _ := rfl
  hashes _ _ := rfl
  grows := le_rfl

theorem setBucketConfined (owned : Owned w s) (b : Nat) (x : Option ν) :
    Confined w (w.setBucket s b x) {s} (arraysOf w s) ∅ where
  others t outside := by
    have differ : t ≠ s := outside
    rcases owned with ⟨one,_⟩ | ⟨k,array,_⟩
    · simp [World.setBucket,World.cell,one,World.write,differ]
    · simp [World.setBucket,World.cell,array,World.write]
  kept k outside := by
    rcases owned with ⟨one,_⟩ | ⟨k',array,_⟩
    · simp [World.setBucket,World.cell,one,World.write]
    · have differ : k ≠ k' := fun same => outside (same ▸ array)
      simp [World.setBucket,World.cell,array,World.write,differ]
  links _ _ := by simp [World.setBucket]
  hashes _ _ := by simp [World.setBucket]
  grows := by simp [World.setBucket]

omit [DecidableEq ι] in
theorem setNextConfined [DecidableEq ν] (p : ν) (x : Option ν) :
    Confined w { w with next := Function.update w.next p x } ∅ ∅ {p} where
  others _ _ := rfl
  kept _ _ := rfl
  links _ outside := Function.update_of_ne outside x w.next
  hashes _ _ := rfl
  grows := le_rfl

end Writes

section InsertFast
variable [DecidableEq ι] [DecidableEq ν] {w : World ι ν} {s t : Slot ι} {cs : Nat → List ν} (node : ν) (hash : UInt64)

theorem insertFastLaid (owned : Owned w s) (laid : Laid w s cs) (fresh : node ∉ nodes (w.maps s).mask cs) :
    Laid (hmapInsertFast w s node hash) s
      (Function.update cs (hash &&& (w.maps s).mask).toNat (node :: cs (hash &&& (w.maps s).mask).toNat)) := by
  have home := hashBucketLe hash (w.maps s).mask
  have outside : ∀ b ≤ (w.maps s).mask.toNat, node ∉ cs b := fun b within inside =>
    fresh (memNodes.2 ⟨b,within,inside⟩)
  refine laid.rebucket (insertFastMask ..) (fun v inside => ?_) (fun b within differ => ?_) ?_ ?_
  · -- only the new node gets a hash
    rw [insertFastHash,Function.update_of_ne]
    rintro rfl
    exact fresh inside
  · have cells : w.cell s b ≠ w.cell s (hash &&& (w.maps s).mask).toNat := fun same =>
      differ (cellsInj owned within home same)
    rw [insertFastBucketAt,if_neg cells,insertFastNext]
    exact (laid b within).1.update (outside b within)
  · rw [insertFastBucketAt,if_pos rfl,insertFastNext]
    exact (laid _ home).1.push (outside _ home)
  · intro v inside
    rw [insertFastHash]
    rcases List.mem_cons.1 inside with rfl | old
    · rw [Function.update_self]
    · rw [Function.update_of_ne (ne_of_mem_of_not_mem old (outside _ home))]
      exact (laid _ home).2 v old

theorem insertFastOwned (owned : Owned w t) : Owned (hmapInsertFast w s node hash) t :=
  owned.keep (insertFastBuckets ..) (insertFastMask ..) (insertFastBrk ..).ge

theorem insertFastConfined (owned : Owned w s) :
    Confined w (hmapInsertFast w s node hash) {s} (arraysOf w s) {node} where
  others t outside := by
    have differ : t ≠ s := outside
    rcases owned with ⟨one,_⟩ | ⟨k,array,_⟩
    · simp [hmapInsertFast,World.setBucket,World.cell,one,World.write,differ]
    · simp [hmapInsertFast,World.setBucket,World.cell,array,World.write,differ]
  kept k outside := by
    rcases owned with ⟨one,_⟩ | ⟨k',array,_⟩
    · simp [hmapInsertFast,World.setBucket,World.cell,one,World.write]
    · have differ : k ≠ k' := fun same => outside (same ▸ array)
      simp [hmapInsertFast,World.setBucket,World.cell,array,World.write,differ]
  links v outside := by
    rw [insertFastNext,Function.update_of_ne outside]
  hashes v outside := by
    rw [insertFastHash,Function.update_of_ne outside]
  grows := (insertFastBrk ..).ge

end InsertFast

section Remove
variable [DecidableEq ι] [DecidableEq ν] {w : World ι ν} {s : Slot ι} {cs : Nat → List ν}

omit [DecidableEq ι] in
theorem findLinkSpec {node : ν} : ∀ {pre post : List ν} {link : Link ι ν} {fuel : Nat},
    Chain w.next (w.linkAt link) (pre ++ node :: post) → pre.length < fuel →
    (pre = [] ∧ findLink w node link fuel = .ok link) ∨
      ∃ front p, pre = front ++ [p] ∧ findLink w node link fuel = .ok (.next p)
  | _, _, _, 0, _, enough => absurd enough (Nat.not_lt_zero _)
  | [], post, link, fuel + 1, chain, _ => by
    have head : w.linkAt link = some node := chain.headEq
    left
    simp [findLink,head]
    rfl
  | u :: pre, post, link, fuel + 1, chain, enough => by
    have head : w.linkAt link = some u := chain.headEq
    have differ : u ≠ node := by
      rintro rfl
      have distinct := chain.nodup
      simp at distinct
    have step : findLink w node link (fuel + 1) = findLink w node (.next u) fuel := by
      simp [findLink,head,differ]
    have tail : Chain w.next (w.linkAt (.next u)) (pre ++ node :: post) := chain.tail
    rw [step]
    rcases findLinkSpec tail (by simp at enough; omega) with ⟨empty,found⟩ | ⟨front,p,split,found⟩
    · exact .inr ⟨[],u,by simp [empty],found⟩
    · exact .inr ⟨u :: front,p,by simp [split],found⟩

theorem removeHash {node : ν} {w' : World ι ν} (removed : hmapRemove w s node = .ok w') : w'.hash = w.hash := by
  simp only [hmapRemove,bind,Except.bind] at removed
  split at removed
  · cases removed
  · rename_i link _
    cases removed
    cases link <;> simp [World.setLink]

theorem removeSpec {node : ν} (owned : Owned w s) (laid : Laid w s cs)
    (present : node ∈ nodes (w.maps s).mask cs) (counted : (nodes (w.maps s).mask cs).length ≤ (w.maps s).n) :
    ∃ w', hmapRemove w s node = .ok w' ∧
      Laid w' s (Function.update cs (w.hash node &&& (w.maps s).mask).toNat
        ((cs (w.hash node &&& (w.maps s).mask).toNat).erase node)) ∧
      (w'.maps s).n = (w.maps s).n - 1 ∧ (w'.maps s).buckets = (w.maps s).buckets ∧
      (w'.maps s).mask = (w.maps s).mask ∧ Confined w w' {s} (arraysOf w s) {v | v ∈ nodes (w.maps s).mask cs} := by
  set b := (w.hash node &&& (w.maps s).mask).toNat with hb
  have home : b ≤ (w.maps s).mask.toNat := hashBucketLe ..
  have inside : node ∈ cs b := laid.bucketOf present
  obtain ⟨pre,post,split⟩ := List.append_of_mem inside
  have chain : Chain w.next (w.linkAt (.bucket s b)) (pre ++ node :: post) := split ▸ (laid b home).1
  have erased : (cs b).erase node = pre ++ post := by
    have fresh : node ∉ pre := fun again =>
      List.disjoint_of_nodup_append chain.nodup again List.mem_cons_self
    rw [split,List.erase_append_right _ fresh,List.erase_cons_head]
  have fuel : pre.length < (w.maps s).n := by
    have sub : (cs b).length ≤ (nodes (w.maps s).mask cs).length := by
      rw [nodesSplit home]
      simp only [List.length_append]
      omega
    rw [split] at sub
    simp only [List.length_append,List.length_cons] at sub
    omega
  have apart : ∀ b' ≤ (w.maps s).mask.toNat, b' ≠ b → ∀ v ∈ cs b, v ∉ cs b' := fun b' within differ v here there =>
    differ (((laid b' within).2 v there).symm.trans ((laid b home).2 v here))
  have placedHere : ∀ v ∈ pre ++ post, (w.hash v &&& (w.maps s).mask).toNat = b := fun v there =>
    (laid b home).2 v (by rw [split]; simp at there ⊢; tauto)
  have done : ∀ link, findLink w node (.bucket s b) (w.maps s).n = .ok link →
      hmapRemove w s node = .ok ((w.setLink link (w.next node)).setMap s
        { (w.setLink link (w.next node)).maps s with n := ((w.setLink link (w.next node)).maps s).n - 1 }) := by
    intro link found
    rw [hmapRemove,found]
    rfl
  rw [erased]
  rcases findLinkSpec chain fuel with ⟨empty,found⟩ | ⟨front,p,before,found⟩
  · -- the node comes first: its bucket takes over its link
    subst empty
    refine ⟨_,done _ found,?_,by simp [World.setLink],by simp [World.setLink],by simp [World.setLink],?_⟩
    · refine laid.rebucket (by simp [World.setLink]) (fun v _ => by simp [World.setLink])
        (fun b' within differ => ?_) ?_ (by simpa [World.setLink] using placedHere)
      · have cells : w.cell s b' ≠ w.cell s b := fun same => differ (cellsInj owned within home same)
        simp only [bucketAtSetN,World.setLink,bucketAtSetBucket,if_neg cells,World.setMapNext,World.setBucketNext]
        exact (laid b' within).1
      · simp only [bucketAtSetN,World.setLink,bucketAtSetBucket,if_pos,World.setMapNext,World.setBucketNext,
          List.nil_append]
        exact chain.tail
    · exact ((setBucketConfined owned b (w.next node)).trans (setMapConfined _)).mono (by simp) (by simp)
        (by simp)
  · -- the node before it takes over its link
    subst before
    have previous : p ∈ cs b := by
      rw [split]
      simp
    refine ⟨_,done _ found,?_,by simp [World.setLink],by simp [World.setLink],by simp [World.setLink],?_⟩
    · refine laid.rebucket (by simp [World.setLink]) (fun v _ => by simp [World.setLink])
        (fun b' within differ => ?_) ?_ (by simpa [World.setLink] using placedHere)
      · simp only [bucketAtSetN,World.setLink,World.setMapNext]
        exact (laid b' within).1.update (apart b' within differ p previous)
      · simp only [bucketAtSetN,World.setLink,World.setMapNext]
        have whole : Chain w.next (w.linkAt (.bucket s b)) (front ++ p :: node :: post) := by simpa using chain
        rw [List.append_assoc,List.singleton_append]
        exact whole.unlink
    · exact ((setNextConfined p (w.next node)).trans (setMapConfined _)).mono (by simp) (by simp)
        (by simpa using memNodes.2 ⟨b,home,previous⟩)

end Remove

end OpenFlow.HashMap
