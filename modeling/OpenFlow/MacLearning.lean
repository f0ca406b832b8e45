import Mathlib
import OpenFlow.Actions
import OpenFlow.Tag
import OpenFlow.Lib.StepSystem

/-! The MAC learning table of lib/mac-learning.c and the hash of lib/hash.c it files addresses by. -/
namespace OpenFlow.MacTable
open Actions Tags StepSystem

section Hash

/- rot, mix and final of lookup3 -/
def rot (x : UInt32) (k : UInt32) : UInt32 := (x <<< k) ||| (x >>> (32 - k))

def mix (a b c : UInt32) : UInt32 × UInt32 × UInt32 :=
  let a := a - c
  let a := a ^^^ rot c 4
  let c := c + b
  let b := b - a
  let b := b ^^^ rot a 6
  let a := a + c
  let c := c - b
  let c := c ^^^ rot b 8
  let b := b + a
  let a := a - c
  let a := a ^^^ rot c 16
  let c := c + b
  let b := b - a
  let b := b ^^^ rot a 19
  let a := a + c
  let c := c - b
  let c := c ^^^ rot b 4
  let b := b + a
  (a,b,c)

def final (a b c : UInt32) : UInt32 × UInt32 × UInt32 :=
  let c := c ^^^ b
  let c := c - rot b 14
  let a := a ^^^ c
  let a := a - rot c 11
  let b := b ^^^ a
  let b := b - rot a 25
  let c := c ^^^ b
  let c := c - rot b 16
  let a := a ^^^ c
  let a := a - rot c 4
  let b := b ^^^ a
  let b := b - rot a 14
  let c := c ^^^ b
  let c := c - rot b 24
  (a,b,c)

/- The 12-byte blocks of hash_bytes' loop, each read as three host-order words; what is left over after `k`
blocks. -/
def hashBlocks : Nat → List UInt8 → UInt32 × UInt32 × UInt32 → List UInt8 × UInt32 × UInt32 × UInt32
  | 0, p, abc => (p,abc)
  | k + 1, p, (a,b,c) =>
    hashBlocks k (p.drop 12)
      (mix (a + LittleEndian.get32 p 0) (b + LittleEndian.get32 p 4) (c + LittleEndian.get32 p 8))

/- hash_bytes: a short tail is zero-padded into tmp[3] before final. -/
def hashBytes (p : List UInt8) (basis : UInt32) : UInt32 :=
  let init := 0xdeadbeef + p.length.toUInt32 + basis
  let (rest,a,b,c) := hashBlocks (p.length / 12) p (init,init,init)
  if rest = [] then c
  else (final (a + LittleEndian.get32 rest 0) (b + LittleEndian.get32 rest 4) (c + LittleEndian.get32 rest 8)).2.2

end Hash

def macHashBits : UInt32 := 10
def macHashSize : Nat := 1024
def macMax : Nat := 1024

/- struct mac_entry; `port` is an int, -1 until the entry learns one. -/
structure MacEntry where
  expires : Int
  mac : EthAddr
  vlan : UInt16
  port : Int
  tag : UInt32

def emptyEntry : MacEntry := ⟨0,Vector.replicate 6 0,0,0,0⟩

/- struct mac_learning -/
structure MacLearning where
  free : List Nat
  lrus : List Nat
  table : Nat → List Nat
  entries : Nat → MacEntry
  secret : UInt32

def ethAddrIsMulticast (ea : EthAddr) : Bool := ea[0] &&& 1 != 0

def macTableHash (mac : EthAddr) (vlan : UInt16) : UInt32 := hashBytes mac.toList vlan.toUInt32

/- The secret is hashed as it lies in memory, little-endian. -/
def makeUnknownMacTag (ml : MacLearning) (mac : EthAddr) (vlan : UInt16) : UInt32 :=
  tagCreateDeterministic (hashBytes (LittleEndian.ofUInt32 ml.secret) (macTableHash mac vlan))

/- mac_table_bucket: `hash & MAC_HASH_BITS`. -/
def macTableBucket (mac : EthAddr) (vlan : UInt16) : Nat := (macTableHash mac vlan &&& macHashBits).toNat

def searchBucket (ml : MacLearning) (bucket : List Nat) (mac : EthAddr) (vlan : UInt16) : Option Nat :=
  bucket.find? fun e => (ml.entries e).mac == mac && (ml.entries e).vlan == vlan

/- The entry that holds (mac, vlan), if any. -/
def findEntry (ml : MacLearning) (mac : EthAddr) (vlan : UInt16) : Option Nat :=
  searchBucket ml (ml.table (macTableBucket mac vlan)) mac vlan

/- free_mac_entry: off its hash chain and the LRU list, onto the front of the free list. -/
def freeMacEntry (ml : MacLearning) (e : Nat) : MacLearning :=
  { ml with
    table := fun b => (ml.table b).erase e
    lrus := ml.lrus.erase e
    free := e :: ml.free.erase e }

/- mac_learning_create: entries 0 to MAC_MAX - 1 pushed on the front of the free list in turn. -/
def macLearningCreate (secret : UInt32) : MacLearning :=
  { free := (List.range macMax).reverse
    lrus := []
    table := fun _ => []
    entries := fun _ => emptyEntry
    secret }

/- The entry learn takes for a new address: the first free one, or else the least recently used, taken off its
hash chain. -/
def takeEntry (ml : MacLearning) : MacLearning × Nat :=
  match ml.free, ml.lrus with
  | e :: _, _ => (ml,e)
  | [], e :: _ => ({ ml with table := fun b => (ml.table b).erase e },e)
  | [], [] => (ml,0)

/- A new entry for (mac, vlan) at the front of its chain, on no port yet, with the address's unknown-MAC tag.
-/
def newEntry (ml : MacLearning) (mac : EthAddr) (vlan : UInt16) : MacLearning × Nat :=
  let taken := takeEntry ml
  ({ taken.1 with
      table := Function.update taken.1.table (macTableBucket mac vlan) (taken.2 :: taken.1.table (macTableBucket mac vlan))
      entries := Function.update taken.1.entries taken.2
        { taken.1.entries taken.2 with mac,vlan,port := -1,tag := makeUnknownMacTag ml mac vlan } },taken.2)

/- Most recently used: to the back of the LRU list, expiring in 60 s. -/
def touch (ml : MacLearning) (e : Nat) (now : Int) : MacLearning :=
  { ml with
    free := ml.free.erase e
    lrus := ml.lrus.erase e ++ [e]
    entries := Function.update ml.entries e { ml.entries e with expires := now + 60 } }

/- mac_learning_learn: the tag of the flows to revalidate, 0 when nothing was learned. -/
def macLearningLearn (ml : MacLearning) (srcMac : EthAddr) (vlan srcPort : UInt16) (now : Int) (fresh : Tag) :
    MacLearning × UInt32 :=
  if ethAddrIsMulticast srcMac then (ml,0)
  else
    let found := match findEntry ml srcMac vlan with
      | some e => (ml,e)
      | none => newEntry ml srcMac vlan
    let ml := touch found.1 found.2 now
    let e := found.2
    if (ml.entries e).port ≠ srcPort.toNat then
      ({ ml with entries := Function.update ml.entries e { ml.entries e with port := srcPort.toNat,tag := fresh.bits } },
        (ml.entries e).tag)
    else (ml,0)

/- mac_learning_lookup_tag: the port, and `tag` with the tag of what the answer depends on OR'd in. -/
def macLearningLookupTag (ml : MacLearning) (dst : EthAddr) (vlan : UInt16) (tag : UInt32) : UInt16 × UInt32 :=
  if ethAddrIsMulticast dst then (ofppFlood,tag)
  else
    match findEntry ml dst vlan with
    | some e => (UInt16.ofInt (ml.entries e).port,tag ||| (ml.entries e).tag)
    | none => (ofppFlood,tag ||| makeUnknownMacTag ml dst vlan)

def macLearningLookup (ml : MacLearning) (dst : EthAddr) (vlan : UInt16) : UInt16 :=
  (macLearningLookupTag ml dst vlan 0).1

/- The loops of mac_learning_flush and mac_learning_run free the entry at the front of the LRU list until it
is empty or, for run, not yet expired. -/
def flushLoop : Nat → MacLearning → MacLearning
  | 0, ml => ml
  | k + 1, ml =>
    match ml.lrus with
    | [] => ml
    | e :: _ => flushLoop k (freeMacEntry ml e)

def macLearningFlush (ml : MacLearning) : MacLearning := flushLoop ml.lrus.length ml

def runLoop (now : Int) : Nat → MacLearning → Option TagSet → MacLearning × Option TagSet
  | 0, ml, set => (ml,set)
  | k + 1, ml, set =>
    match ml.lrus with
    | [] => (ml,set)
    | e :: _ =>
      if now ≥ (ml.entries e).expires then
        runLoop now k (freeMacEntry ml e) (set.map fun set => tagSetAdd set (ml.entries e).tag)
      else (ml,set)

/- mac_learning_run, with the caller's tag set or a null pointer. -/
def macLearningRun (ml : MacLearning) (set : Option TagSet) (now : Int) : MacLearning × Option TagSet :=
  runLoop now ml.lrus.length ml set

/- The calls that change a table after mac_learning_create, and what each hands back. -/
inductive Op where
  | learn (srcMac : EthAddr) (vlan srcPort : UInt16) (now : Int) (fresh : Tag)
  | run (now : Int) (set : Option TagSet)
  | flush

inductive Reply where
  | learned (tag : UInt32)
  | ran (set : Option TagSet)
  | flushed

def macStep (ml : MacLearning) : Op → Reply × MacLearning
  | .learn srcMac vlan srcPort now fresh =>
    (.learned (macLearningLearn ml srcMac vlan srcPort now fresh).2,(macLearningLearn ml srcMac vlan srcPort now fresh).1)
  | .run now set => (.ran (macLearningRun ml set now).2,(macLearningRun ml set now).1)
  | .flush => (.flushed,macLearningFlush ml)

def macApply (ml : MacLearning) (op : Op) : MacLearning := (macStep ml op).2

section Represent

/- The representation invariant: every entry is on exactly one of the free and LRU lists; an entry in use is
on the chain mac_table_bucket gives its address, once, and on no other; only entries in use are on chains; no
two entries in use hold one address; and each entry in use carries a tag. -/
structure Represented (ml : MacLearning) : Prop where
  lists : (ml.free ++ ml.lrus).Perm (List.range macMax)
  chained : ∀ b, ∀ e ∈ ml.table b, e ∈ ml.lrus ∧ b = macTableBucket (ml.entries e).mac (ml.entries e).vlan
  once : ∀ b, (ml.table b).Nodup
  homed : ∀ e ∈ ml.lrus, e ∈ ml.table (macTableBucket (ml.entries e).mac (ml.entries e).vlan)
  distinct : ∀ e ∈ ml.lrus, ∀ e' ∈ ml.lrus, (ml.entries e).mac = (ml.entries e').mac →
    (ml.entries e).vlan = (ml.entries e').vlan → e = e'
  tagged : ∀ e ∈ ml.lrus, ∃ t : Tag, (ml.entries e).tag = t.bits

/- An entry moved to the front of the chain of its new address and to the back of the LRU list, with new
contents: what learn does for an address it does not know. -/
def relink (ml : MacLearning) (e : Nat) (entry : MacEntry) : MacLearning :=
  { ml with
    table := fun b => if b = macTableBucket entry.mac entry.vlan then e :: (ml.table b).erase e else (ml.table b).erase e
    free := ml.free.erase e
    lrus := ml.lrus.erase e ++ [e]
    entries := Function.update ml.entries e entry }

/- An entry renewed where it is, moved to the back of the LRU list: what learn does for an address it knows.
-/
def retouch (ml : MacLearning) (e : Nat) (entry : MacEntry) : MacLearning :=
  { ml with
    free := ml.free.erase e
    lrus := ml.lrus.erase e ++ [e]
    entries := Function.update ml.entries e entry }

variable {ml : MacLearning}

theorem Represented.nodup (rep : Represented ml) : (ml.free ++ ml.lrus).Nodup :=
  rep.lists.nodup_iff.mpr List.nodup_range

theorem Represented.lrusNodup (rep : Represented ml) : ml.lrus.Nodup := rep.nodup.of_append_right

theorem Represented.freeNotUsed (rep : Represented ml) {e : Nat} (free : e ∈ ml.free) : e ∉ ml.lrus :=
  List.disjoint_of_nodup_append rep.nodup free

theorem Represented.freeUnchained (rep : Represented ml) {e : Nat} (free : e ∈ ml.free) (b : Nat) : e ∉ ml.table b :=
  fun chain => rep.freeNotUsed free (rep.chained b e chain).1

theorem Represented.eraseBoth (rep : Represented ml) (e : Nat) :
    ml.free.erase e ++ ml.lrus.erase e = (ml.free ++ ml.lrus).erase e := by
  rw [List.erase_append]
  split
  · rename_i free
    rw [List.erase_of_not_mem (rep.freeNotUsed free)]
  · rename_i notFree
    rw [List.erase_of_not_mem notFree]

theorem Represented.listsMoved (rep : Represented ml) {e : Nat} (mem : e ∈ ml.free ++ ml.lrus) :
    (ml.free.erase e ++ (ml.lrus.erase e ++ [e])).Perm (List.range macMax) := by
  rw [← List.append_assoc,rep.eraseBoth e]
  exact ((List.perm_append_singleton e _).trans (List.perm_cons_erase mem).symm).trans rep.lists

theorem createRepresented (secret : UInt32) : Represented (macLearningCreate secret) where
  lists := by simp [macLearningCreate,List.reverse_perm]
  chained _ _ chain := by simp [macLearningCreate] at chain
  once _ := List.nodup_nil
  homed _ used := by simp [macLearningCreate] at used
  distinct _ used := by simp [macLearningCreate] at used
  tagged _ used := by simp [macLearningCreate] at used

theorem relinkRepresented (rep : Represented ml) {e : Nat} (mem : e ∈ ml.free ++ ml.lrus) {entry : MacEntry}
    (fresh : ∀ e' ∈ ml.lrus, e' ≠ e → (ml.entries e').mac = entry.mac → (ml.entries e').vlan ≠ entry.vlan)
    (tag : ∃ t : Tag, entry.tag = t.bits) : Represented (relink ml e entry) where
  lists := rep.listsMoved mem
  chained b e' chain := by
    simp only [relink] at chain ⊢
    split at chain
    · rename_i home
      rcases List.mem_cons.mp chain with rfl | rest
      · simp [home]
      · obtain ⟨other,old⟩ := (rep.once b).mem_erase_iff.mp rest
        obtain ⟨used,bucket⟩ := rep.chained b e' old
        exact ⟨List.mem_append_left _ ((List.mem_erase_of_ne other).mpr used),by rw [Function.update_of_ne other,bucket]⟩
    · obtain ⟨other,old⟩ := (rep.once b).mem_erase_iff.mp chain
      obtain ⟨used,bucket⟩ := rep.chained b e' old
      exact ⟨List.mem_append_left _ ((List.mem_erase_of_ne other).mpr used),by rw [Function.update_of_ne other,bucket]⟩
  once b := by
    simp only [relink]
    split
    · exact List.nodup_cons.mpr ⟨(rep.once b).not_mem_erase,(rep.once b).erase e⟩
    · exact (rep.once b).erase e
  homed e' used := by
    simp only [relink] at used ⊢
    by_cases same : e' = e
    · subst same
      simp
    · have old : e' ∈ ml.lrus := by simpa [same] using used
      have chain := (List.mem_erase_of_ne same).mpr (rep.homed e' old)
      rw [Function.update_of_ne same]
      split
      · exact List.mem_cons_of_mem _ chain
      · exact chain
  distinct e₁ used₁ e₂ used₂ mac vlan := by
    simp only [relink,List.mem_append,List.mem_singleton] at used₁ used₂ mac vlan
    by_cases first : e₁ = e
    · by_cases second : e₂ = e
      · rw [first,second]
      · subst first
        rw [Function.update_self,Function.update_of_ne second] at mac vlan
        have old := List.mem_of_mem_erase (used₂.resolve_right second)
        exact absurd vlan.symm (fresh e₂ old second mac.symm)
    · by_cases second : e₂ = e
      · subst second
        rw [Function.update_self,Function.update_of_ne first] at mac vlan
        have old := List.mem_of_mem_erase (used₁.resolve_right first)
        exact absurd vlan (fresh e₁ old first mac)
      · rw [Function.update_of_ne first,Function.update_of_ne second] at mac vlan
        exact rep.distinct e₁ (List.mem_of_mem_erase (used₁.resolve_right first)) e₂
          (List.mem_of_mem_erase (used₂.resolve_right second)) mac vlan
  tagged e' used := by
    simp only [relink,List.mem_append,List.mem_singleton] at used ⊢
    by_cases same : e' = e
    · subst same
      simpa using tag
    · rw [Function.update_of_ne same]
      exact rep.tagged e' (List.mem_of_mem_erase (used.resolve_right same))

theorem retouchRepresented (rep : Represented ml) {e : Nat} (used : e ∈ ml.lrus) {entry : MacEntry}
    (mac : entry.mac = (ml.entries e).mac) (vlan : entry.vlan = (ml.entries e).vlan)
    (tag : ∃ t : Tag, entry.tag = t.bits) : Represented (retouch ml e entry) where
  lists := rep.listsMoved (List.mem_append_right _ used)
  chained b e' chain := by
    obtain ⟨old,bucket⟩ := rep.chained b e' chain
    refine ⟨?_,?_⟩
    · by_cases same : e' = e
      · simp [retouch,same]
      · exact List.mem_append_left _ ((List.mem_erase_of_ne same).mpr old)
    · by_cases same : e' = e
      · subst same
        simp [retouch,mac,vlan,bucket]
      · simp [retouch,Function.update_of_ne same,bucket]
  once b := rep.once b
  homed e' used' := by
    simp only [retouch,List.mem_append,List.mem_singleton] at used'
    by_cases same : e' = e
    · subst same
      simpa [retouch,mac,vlan] using rep.homed e' used
    · simpa [retouch,Function.update_of_ne same] using rep.homed e' (List.mem_of_mem_erase (used'.resolve_right same))
  distinct e₁ used₁ e₂ used₂ macs vlans := by
    simp only [retouch,List.mem_append,List.mem_singleton] at used₁ used₂ macs vlans
    have in₁ : e₁ ∈ ml.lrus := by
      rcases used₁ with inner | rfl
      · exact List.mem_of_mem_erase inner
      · exact used
    have in₂ : e₂ ∈ ml.lrus := by
      rcases used₂ with inner | rfl
      · exact List.mem_of_mem_erase inner
      · exact used
    have addr : ∀ e', (Function.update ml.entries e entry e').mac = (ml.entries e').mac ∧
        (Function.update ml.entries e entry e').vlan = (ml.entries e').vlan := by
      intro e'
      by_cases same : e' = e
      · subst same
        simp [mac,vlan]
      · simp [Function.update_of_ne same]
    rw [(addr e₁).1,(addr e₂).1] at macs
    rw [(addr e₁).2,(addr e₂).2] at vlans
    exact rep.distinct e₁ in₁ e₂ in₂ macs vlans
  tagged e' used' := by
    simp only [retouch,List.mem_append,List.mem_singleton] at used' ⊢
    by_cases same : e' = e
    · subst same
      simpa using tag
    · rw [Function.update_of_ne same]
      exact rep.tagged e' (List.mem_of_mem_erase (used'.resolve_right same))

theorem freeRepresented (rep : Represented ml) {e : Nat} (used : e ∈ ml.lrus) : Represented (freeMacEntry ml e) where
  lists := by
    simp only [freeMacEntry,List.cons_append]
    rw [rep.eraseBoth e]
    exact (List.perm_cons_erase (List.mem_append_right _ used)).symm.trans rep.lists
  chained b e' chain := by
    obtain ⟨other,old⟩ := (rep.once b).mem_erase_iff.mp chain
    obtain ⟨inUse,bucket⟩ := rep.chained b e' old
    exact ⟨(List.mem_erase_of_ne other).mpr inUse,bucket⟩
  once b := (rep.once b).erase e
  homed e' used' := by
    have other : e' ≠ e := (rep.lrusNodup.mem_erase_iff.mp used').1
    exact (List.mem_erase_of_ne other).mpr (rep.homed e' (List.mem_of_mem_erase used'))
  distinct e₁ used₁ e₂ used₂ := rep.distinct e₁ (List.mem_of_mem_erase used₁) e₂ (List.mem_of_mem_erase used₂)
  tagged e' used' := rep.tagged e' (List.mem_of_mem_erase used')

end Represent

section Learn
variable {ml : MacLearning} {srcMac : EthAddr} {vlan srcPort : UInt16} {now : Int} {fresh : Tag}

theorem findEntrySome {mac : EthAddr} {e : Nat} (found : findEntry ml mac vlan = some e) :
    e ∈ ml.table (macTableBucket mac vlan) ∧ (ml.entries e).mac = mac ∧ (ml.entries e).vlan = vlan := by
  have hit := List.find?_some found
  simp only [Bool.and_eq_true,beq_iff_eq] at hit
  exact ⟨List.mem_of_find?_eq_some found,hit⟩

theorem findEntryNone {mac : EthAddr} (missing : findEntry ml mac vlan = none) {e : Nat}
    (chain : e ∈ ml.table (macTableBucket mac vlan)) (sameMac : (ml.entries e).mac = mac) : (ml.entries e).vlan ≠ vlan := by
  have miss := List.find?_eq_none.mp missing e chain
  simp only [Bool.and_eq_true,beq_iff_eq,not_and] at miss
  exact miss sameMac

theorem learnFound {e : Nat} (unicast : ethAddrIsMulticast srcMac = false) (found : findEntry ml srcMac vlan = some e) :
    macLearningLearn ml srcMac vlan srcPort now fresh =
      if (ml.entries e).port ≠ srcPort.toNat then
        (retouch ml e { ml.entries e with expires := now + 60,port := srcPort.toNat,tag := fresh.bits },(ml.entries e).tag)
      else (retouch ml e { ml.entries e with expires := now + 60 },0) := by
  simp only [macLearningLearn,unicast,found,touch,Bool.false_eq_true,if_false,Function.update_self]
  split
  · simp only [retouch,Function.update_idem]
  · rfl

theorem takeEntrySpec (rep : Represented ml) :
    (∃ rest, ml.free = (takeEntry ml).2 :: rest) ∨ (ml.free = [] ∧ ∃ rest, ml.lrus = (takeEntry ml).2 :: rest) := by
  rcases hfree : ml.free with _ | ⟨f,rest⟩
  · rcases hlrus : ml.lrus with _ | ⟨v,rest⟩
    · have counted := rep.lists.length_eq
      simp [hfree,hlrus,macMax] at counted
    · exact Or.inr ⟨rfl,rest,by simp [takeEntry,hfree,hlrus]⟩
  · exact Or.inl ⟨rest,by simp [takeEntry,hfree]⟩

theorem takeEntryMem (rep : Represented ml) : (takeEntry ml).2 ∈ ml.free ++ ml.lrus := by
  rcases takeEntrySpec rep with ⟨rest,free⟩ | ⟨_,rest,lrus⟩
  · rw [free]
    exact List.mem_append_left _ List.mem_cons_self
  · rw [lrus]
    exact List.mem_append_right _ List.mem_cons_self

theorem learnNew (rep : Represented ml) (unicast : ethAddrIsMulticast srcMac = false)
    (missing : findEntry ml srcMac vlan = none) :
    macLearningLearn ml srcMac vlan srcPort now fresh =
      (relink ml (takeEntry ml).2 ⟨now + 60,srcMac,vlan,srcPort.toNat,fresh.bits⟩,makeUnknownMacTag ml srcMac vlan) := by
  have unlearned : ((-1 : Int) ≠ srcPort.toNat) := by omega
  cases hfree : ml.free with
  | cons f rest =>
    have free : f ∈ ml.free := by simp [hfree]
    have unchained : ∀ b, (ml.table b).erase f = ml.table b := fun b =>
      List.erase_of_not_mem (rep.freeUnchained free b)
    have taken : takeEntry ml = (ml,f) := by simp [takeEntry,hfree]
    simp only [macLearningLearn,unicast,missing,newEntry,taken,touch,Bool.false_eq_true,if_false,Function.update_self,
      unlearned,ne_eq,not_false_eq_true,if_true,Function.update_idem,relink,hfree]
    congr 2
    funext b
    by_cases home : b = macTableBucket srcMac vlan
    · subst home
      simp [unchained]
    · simp [home,unchained]
  | nil =>
    cases hlrus : ml.lrus with
    | nil =>
      have counted := rep.lists.length_eq
      simp [hfree,hlrus,macMax] at counted
    | cons v rest =>
      have taken : takeEntry ml = ({ ml with table := fun b => (ml.table b).erase v },v) := by
        simp [takeEntry,hfree,hlrus]
      simp only [macLearningLearn,unicast,missing,newEntry,taken,touch,Bool.false_eq_true,if_false,Function.update_self,
        unlearned,ne_eq,not_false_eq_true,if_true,Function.update_idem,relink,hfree]
      congr 2
      funext b
      by_cases home : b = macTableBucket srcMac vlan
      · subst home
        simp
      · simp [home]

theorem learnRepresented (rep : Represented ml) : Represented (macLearningLearn ml srcMac vlan srcPort now fresh).1 := by
  cases unicast : ethAddrIsMulticast srcMac
  case true => simpa [macLearningLearn,unicast] using rep
  case false =>
    cases found : findEntry ml srcMac vlan with
    | some e =>
      have used : e ∈ ml.lrus := (rep.chained _ e (findEntrySome found).1).1
      rw [learnFound unicast found]
      split
      · exact retouchRepresented rep used rfl rfl ⟨fresh,rfl⟩
      · exact retouchRepresented rep used rfl rfl (rep.tagged e used)
    | none =>
      rw [learnNew rep unicast found]
      refine relinkRepresented rep (takeEntryMem rep) ?_ ⟨fresh,rfl⟩
      intro e used _ sameMac sameVlan
      have home := rep.homed e used
      rw [sameMac,sameVlan] at home
      exact findEntryNone found home sameMac sameVlan

/- The entry in use that holds an address. -/
abbrev Holds (ml : MacLearning) (mac : EthAddr) (vlan : UInt16) (e : Nat) : Prop :=
  e ∈ ml.lrus ∧ (ml.entries e).mac = mac ∧ (ml.entries e).vlan = vlan

theorem findEntryIff (rep : Represented ml) {mac : EthAddr} {e : Nat} :
    findEntry ml mac vlan = some e ↔ Holds ml mac vlan e := by
  constructor
  · intro found
    obtain ⟨chain,sameMac,sameVlan⟩ := findEntrySome found
    exact ⟨(rep.chained _ e chain).1,sameMac,sameVlan⟩
  · rintro ⟨used,rfl,rfl⟩
    have home := rep.homed e used
    cases found : findEntry ml (ml.entries e).mac (ml.entries e).vlan with
    | none => exact absurd rfl (findEntryNone found home rfl)
    | some e' =>
      obtain ⟨chain,sameMac,sameVlan⟩ := findEntrySome found
      rw [rep.distinct e' (rep.chained _ e' chain).1 e used sameMac sameVlan]

end Learn

section Runs
variable {ml : MacLearning}

theorem flushLoopRepresented : ∀ k (ml : MacLearning), Represented ml → Represented (flushLoop k ml)
  | 0, _, rep => rep
  | k + 1, ml, rep => by
    unfold flushLoop
    split
    · exact rep
    · rename_i e rest front
      exact flushLoopRepresented k _ (freeRepresented rep (by simp [front]))

theorem runLoopRepresented (now : Int) :
    ∀ k (ml : MacLearning) set, Represented ml → Represented (runLoop now k ml set).1
  | 0, _, _, rep => rep
  | k + 1, ml, set, rep => by
    unfold runLoop
    split
    · exact rep
    · rename_i e rest front
      split
      · exact runLoopRepresented now k _ _ (freeRepresented rep (by simp [front]))
      · exact rep

theorem macApplyRepresented (rep : Represented ml) (op : Op) : Represented (macApply ml op) := by
  cases op with
  | learn srcMac vlan srcPort now fresh => exact learnRepresented rep
  | run now set => exact runLoopRepresented now _ ml set rep
  | flush => exact flushLoopRepresented _ ml rep

theorem reachableRepresented {secret : UInt32} (reach : Reachable macApply (macLearningCreate secret) ml) :
    Represented ml :=
  reach.invariant (createRepresented secret) fun _ op rep => macApplyRepresented rep op

end Runs

section Buckets

theorem maskTen (x : Nat) : x &&& 10 = (x % 16) &&& 10 := by
  rw [← Nat.and_two_pow_sub_one_eq_mod x 4,Nat.and_assoc]
  rfl

theorem macTableBucketUsed (mac : EthAddr) (vlan : UInt16) : macTableBucket mac vlan ∈ [0,2,8,10] := by
  have low := Nat.mod_lt (macTableHash mac vlan).toNat (by decide : 16 > 0)
  have masked : ∀ r < 16, r &&& 10 ∈ [0,2,8,10] := by decide
  have ten : macHashBits.toNat = 10 := rfl
  rw [macTableBucket,UInt32.toNat_and,ten,maskTen]
  exact masked _ low

theorem macBucketsMisfiled :
    (∀ secret ml, Reachable macApply (macLearningCreate secret) ml →
      Represented ml ∧ ∀ b, ml.table b ≠ [] → b ∈ [0,2,8,10]) ∧
    1023 ∈ (macLearningLearn (macLearningCreate 0) #v[0,1,2,3,4,5] 0 1 0 ⟨3,7,by decide⟩).1.lrus ∧
    (macTableHash #v[0,1,2,3,4,5] 0).toNat % macHashSize = 670 ∧
    (macLearningLearn (macLearningCreate 0) #v[0,1,2,3,4,5] 0 1 0 ⟨3,7,by decide⟩).1.table 670 = [] ∧
    (macLearningLearn (macLearningCreate 0) #v[0,1,2,3,4,5] 0 1 0 ⟨3,7,by decide⟩).1.table 10 = [1023] := by
  refine ⟨fun secret ml reach => ⟨reachableRepresented reach,fun b used => ?_⟩,by decide +kernel⟩
  obtain ⟨e,chain⟩ := List.exists_mem_of_ne_nil _ used
  rw [((reachableRepresented reach).chained b e chain).2]
  exact macTableBucketUsed _ _

end Buckets

section Revalidation

/- The entry a learn evicts: with nothing free, a new address takes the least recently used one. -/
def evicts (ml : MacLearning) (srcMac : EthAddr) (vlan : UInt16) : Option Nat :=
  if ethAddrIsMulticast srcMac = false ∧ findEntry ml srcMac vlan = none ∧ ml.free = [] then ml.lrus.head? else none

/- A call that neither flushes, runs without a tag set, nor evicts the entry that holds (mac, vlan). -/
def keeps (mac : EthAddr) (vlan : UInt16) (ml : MacLearning) : Op → Bool
  | .learn srcMac srcVlan _ _ _ => (evicts ml srcMac srcVlan).all fun e => findEntry ml mac vlan != some e
  | .run _ set => set.isSome
  | .flush => false

def quiet (mac : EthAddr) (vlan : UInt16) : MacLearning → List Op → Bool
  | _, [] => true
  | ml, op :: ops => keeps mac vlan ml op && quiet mac vlan (macApply ml op) ops

/- An answer that revalidates the flows carrying `tag`: a learn hands back a tag that contains it, or a run
adds it to the caller's set. -/
def revalidates (tag : UInt32) : Reply → Bool
  | .learned t => t &&& tag == tag
  | .ran (some set) => tagSetIntersects set tag
  | _ => false

variable {ml ml' : MacLearning} {mac : EthAddr} {vlan : UInt16}

theorem lookupTagFrame (secret : ml'.secret = ml.secret) (same : findEntry ml' mac vlan = findEntry ml mac vlan)
    (entry : ∀ e, findEntry ml mac vlan = some e →
      (ml'.entries e).port = (ml.entries e).port ∧ (ml'.entries e).tag = (ml.entries e).tag) (tag : UInt32) :
    macLearningLookupTag ml' mac vlan tag = macLearningLookupTag ml mac vlan tag := by
  unfold macLearningLookupTag makeUnknownMacTag
  rw [same,secret]
  split
  · rfl
  · cases found : findEntry ml mac vlan with
    | none => rfl
    | some e =>
      obtain ⟨port,tagged⟩ := entry e found
      simp only [port,tagged]

theorem findEntryEq (rep : Represented ml) (rep' : Represented ml')
    (holders : ∀ e, Holds ml' mac vlan e ↔ Holds ml mac vlan e) : findEntry ml' mac vlan = findEntry ml mac vlan :=
  Option.ext fun e => (findEntryIff rep').trans ((holders e).trans (findEntryIff rep).symm)

theorem retouchHolds {e0 : Nat} (used : e0 ∈ ml.lrus) {E : MacEntry} (sameMac : E.mac = (ml.entries e0).mac)
    (sameVlan : E.vlan = (ml.entries e0).vlan) (e : Nat) : Holds (retouch ml e0 E) mac vlan e ↔ Holds ml mac vlan e := by
  unfold Holds retouch
  by_cases self : e = e0
  · subst self
    simp [sameMac,sameVlan,used]
  · simp [List.mem_erase_of_ne self,self]

theorem relinkHolds {e1 : Nat} {E : MacEntry} (other : ¬ (E.mac = mac ∧ E.vlan = vlan))
    (notHolder : ¬ Holds ml mac vlan e1) (e : Nat) : Holds (relink ml e1 E) mac vlan e ↔ Holds ml mac vlan e := by
  unfold Holds relink
  by_cases self : e = e1
  · subst self
    simp only [Function.update_self]
    constructor
    · rintro ⟨_,sameMac,sameVlan⟩
      exact absurd ⟨sameMac,sameVlan⟩ other
    · intro holder
      exact absurd holder notHolder
  · simp [List.mem_erase_of_ne self,self]

theorem takenEvicted (rep : Represented ml) {srcMac : EthAddr} {srcVlan : UInt16}
    (unicast : ethAddrIsMulticast srcMac = false) (missing : findEntry ml srcMac srcVlan = none)
    (used : (takeEntry ml).2 ∈ ml.lrus) : evicts ml srcMac srcVlan = some (takeEntry ml).2 := by
  rcases takeEntrySpec rep with ⟨rest,free⟩ | ⟨full,rest,lrus⟩
  · exact absurd used (rep.freeNotUsed (by rw [free]; exact List.mem_cons_self))
  · simp [evicts,unicast,missing,full,lrus]

theorem learnRevalidates (rep : Represented ml) (unicast : ethAddrIsMulticast mac = false)
    {srcMac : EthAddr} {srcVlan srcPort : UInt16} {now : Int} {fresh : Tag}
    (keep : (evicts ml srcMac srcVlan).all (fun e => findEntry ml mac vlan != some e) = true) :
    macLearningLookupTag (macLearningLearn ml srcMac srcVlan srcPort now fresh).1 mac vlan 0 =
        macLearningLookupTag ml mac vlan 0 ∨
      revalidates (macLearningLookupTag ml mac vlan 0).2 (.learned (macLearningLearn ml srcMac srcVlan srcPort now fresh).2) =
        true := by
  cases src : ethAddrIsMulticast srcMac
  case true =>
    left
    simp [macLearningLearn,src]
  case false =>
  cases found : findEntry ml srcMac srcVlan with
  | some e0 =>
    have used : e0 ∈ ml.lrus := ((findEntryIff rep).mp found).1
    have touched : ∀ E : MacEntry, E.mac = (ml.entries e0).mac → E.vlan = (ml.entries e0).vlan →
        (∃ t : Tag, E.tag = t.bits) → (∀ e, findEntry ml mac vlan = some e →
          ((retouch ml e0 E).entries e).port = (ml.entries e).port ∧ ((retouch ml e0 E).entries e).tag = (ml.entries e).tag) →
        macLearningLookupTag (retouch ml e0 E) mac vlan 0 = macLearningLookupTag ml mac vlan 0 := by
      intro E sameMac sameVlan tagged entry
      refine lookupTagFrame ?_ ?_ entry 0
      · rfl
      · exact findEntryEq rep (retouchRepresented rep used sameMac sameVlan tagged) (retouchHolds used sameMac sameVlan)
    rw [learnFound src found]
    by_cases self : findEntry ml mac vlan = some e0
    · split
      · -- a new port for the looked-up address: its old tag is handed back
        right
        simp [revalidates,macLearningLookupTag,unicast,self]
      · left
        refine touched _ rfl rfl (rep.tagged e0 used) (fun e holder => ?_)
        rw [self] at holder
        cases holder
        simp [retouch]
    · -- another address: the looked-up one keeps its holder and that entry
      left
      have untouched : ∀ E e, findEntry ml mac vlan = some e → (retouch ml e0 E).entries e = ml.entries e :=
        fun E e holder => Function.update_of_ne (fun same => self (by rw [← same]; exact holder)) _ _
      split
      · exact touched _ rfl rfl ⟨fresh,rfl⟩ (fun e holder => by rw [untouched _ e holder]; exact ⟨rfl,rfl⟩)
      · exact touched _ rfl rfl (rep.tagged e0 used) (fun e holder => by rw [untouched _ e holder]; exact ⟨rfl,rfl⟩)
  | none =>
    have rep' : Represented (macLearningLearn ml srcMac srcVlan srcPort now fresh).1 := learnRepresented rep
    rw [learnNew rep src found] at rep' ⊢
    by_cases self : srcMac = mac ∧ srcVlan = vlan
    · -- the looked-up address is learned: the tag of its unknown port is handed back
      right
      obtain ⟨rfl,rfl⟩ := self
      simp [revalidates,macLearningLookupTag,unicast,found]
    · left
      have notHolder : ¬ Holds ml mac vlan (takeEntry ml).2 := by
        intro holder
        have evicted := takenEvicted rep src found holder.1
        simp only [evicted,Option.all_some,bne_iff_ne,ne_eq] at keep
        exact keep ((findEntryIff rep).mpr holder)
      refine lookupTagFrame ?_ (findEntryEq rep rep' (relinkHolds self notHolder)) (fun e holder => ?_) 0
      · rfl
      have other : e ≠ (takeEntry ml).2 := fun same => notHolder (same ▸ (findEntryIff rep).mp holder)
      simp [relink,Function.update_of_ne other]

theorem runLoopFrame (now : Int) : ∀ k (ml : MacLearning) set,
    (runLoop now k ml set).1.entries = ml.entries ∧ (runLoop now k ml set).1.secret = ml.secret ∧
      ∀ e ∈ (runLoop now k ml set).1.lrus, e ∈ ml.lrus
  | 0, _, _ => ⟨rfl,rfl,fun _ used => used⟩
  | k + 1, ml, set => by
    unfold runLoop
    split
    · exact ⟨rfl,rfl,fun _ used => used⟩
    · rename_i e rest front
      split
      · obtain ⟨entries,secret,kept⟩ := runLoopFrame now k (freeMacEntry ml e) (set.map fun set => tagSetAdd set (ml.entries e).tag)
        exact ⟨entries,secret,fun e' used => List.mem_of_mem_erase (kept e' used)⟩
      · exact ⟨rfl,rfl,fun _ used => used⟩

theorem runLoopNoSet (now : Int) : ∀ k (ml : MacLearning), (runLoop now k ml none).2 = none
  | 0, _ => rfl
  | k + 1, ml => by
    unfold runLoop
    split
    · rfl
    · split
      · exact runLoopNoSet now k _
      · rfl

theorem runLoopCovers (now : Int) : ∀ k (ml : MacLearning) (s : TagSet), Represented ml →
    ∃ s', (runLoop now k ml (some s)).2 = some s' ∧ (∀ b, Covers s b → Covers s' b) ∧
      ∀ e ∈ ml.lrus, e ∉ (runLoop now k ml (some s)).1.lrus → Covers s' (ml.entries e).tag
  | 0, _, s, _ => ⟨s,rfl,fun _ covered => covered,fun _ used gone => absurd used gone⟩
  | k + 1, ml, s, rep => by
    unfold runLoop
    split
    · exact ⟨s,rfl,fun _ covered => covered,fun _ used gone => absurd used gone⟩
    · rename_i e rest front
      split
      · have used : e ∈ ml.lrus := by simp [front]
        obtain ⟨s',out,grown,freed⟩ :=
          runLoopCovers now k (freeMacEntry ml e) (tagSetAdd s (ml.entries e).tag) (freeRepresented rep used)
        refine ⟨s',out,fun b covered => grown b (coversAdd covered _),fun e' used' gone => ?_⟩
        by_cases self : e' = e
        · -- the entry freed first: its tag went into the set and stays covered
          subst self
          obtain ⟨t,tagged⟩ := rep.tagged e' used'
          have added : Covers (tagSetAdd s (ml.entries e').tag) (ml.entries e').tag := by
            rw [tagged]
            exact tagSetAddCovers t
          exact grown _ added
        · exact freed e' ((List.mem_erase_of_ne self).mpr used') gone
      · exact ⟨s,rfl,fun _ covered => covered,fun _ used gone => absurd used gone⟩

theorem runRevalidates (rep : Represented ml) (unicast : ethAddrIsMulticast mac = false) (now : Int) (s : TagSet) :
    macLearningLookupTag (macLearningRun ml (some s) now).1 mac vlan 0 = macLearningLookupTag ml mac vlan 0 ∨
      revalidates (macLearningLookupTag ml mac vlan 0).2 (.ran (macLearningRun ml (some s) now).2) = true := by
  obtain ⟨entries,secret,kept⟩ := runLoopFrame now ml.lrus.length ml (some s)
  obtain ⟨s',out,_,freed⟩ := runLoopCovers now ml.lrus.length ml s rep
  have rep' := runLoopRepresented now ml.lrus.length ml (some s) rep
  unfold macLearningRun
  have frame : ∀ e, findEntry ml mac vlan = some e →
      ((runLoop now ml.lrus.length ml (some s)).1.entries e).port = (ml.entries e).port ∧
        ((runLoop now ml.lrus.length ml (some s)).1.entries e).tag = (ml.entries e).tag := by
    intro e _
    rw [entries]
    exact ⟨rfl,rfl⟩
  cases found : findEntry ml mac vlan with
  | none =>
    left
    refine lookupTagFrame secret ?_ frame 0
    rw [found]
    cases found' : findEntry (runLoop now ml.lrus.length ml (some s)).1 mac vlan with
    | none => rfl
    | some e =>
      obtain ⟨used,sameMac,sameVlan⟩ := (findEntryIff rep').mp found'
      rw [entries] at sameMac sameVlan
      rw [(findEntryIff rep).mpr ⟨kept e used,sameMac,sameVlan⟩] at found
      cases found
  | some e =>
    obtain ⟨used,sameMac,sameVlan⟩ := (findEntryIff rep).mp found
    by_cases stays : e ∈ (runLoop now ml.lrus.length ml (some s)).1.lrus
    · left
      refine lookupTagFrame secret ?_ frame 0
      rw [found]
      exact (findEntryIff rep').mpr ⟨stays,by rw [entries]; exact sameMac,by rw [entries]; exact sameVlan⟩
    · -- the holder expired: its tag is in the set the run hands back
      right
      obtain ⟨t,tagged⟩ := rep.tagged e used
      have covered := freed e used stays
      rw [tagged] at covered
      simp only [revalidates,macLearningLookupTag,unicast,found,out,tagged,UInt32.zero_or,Bool.false_eq_true,if_false]
      exact (tagSetIntersectsIff t).mpr covered

theorem stepRevalidates (rep : Represented ml) (unicast : ethAddrIsMulticast mac = false) (op : Op)
    (keep : keeps mac vlan ml op = true) :
    macLearningLookupTag (macApply ml op) mac vlan 0 = macLearningLookupTag ml mac vlan 0 ∨
      revalidates (macLearningLookupTag ml mac vlan 0).2 (macStep ml op).1 = true := by
  cases op with
  | learn srcMac srcVlan srcPort now fresh => exact learnRevalidates rep unicast keep
  | run now set =>
    cases set with
    | none => simp [keeps] at keep
    | some s => exact runRevalidates rep unicast now s
  | flush => simp [keeps] at keep

theorem quietRevalidates (ops : List Op) : ∀ {ml : MacLearning}, Represented ml → ethAddrIsMulticast mac = false →
    quiet mac vlan ml ops = true →
    macLearningLookupTag (after macStep ml ops) mac vlan 0 = macLearningLookupTag ml mac vlan 0 ∨
      ∃ a ∈ answers macStep ml ops, revalidates (macLearningLookupTag ml mac vlan 0).2 a.2 = true := by
  induction ops with
  | nil =>
    intro ml _ _ _
    exact Or.inl rfl
  | cons op ops ih =>
    intro ml rep unicast calm
    simp only [quiet,Bool.and_eq_true] at calm
    rcases stepRevalidates rep unicast op calm.1 with same | now
    · -- nothing changed yet: the rest of the run starts from the same answer
      rcases ih (macApplyRepresented rep op) unicast calm.2 with stays | later
      · exact Or.inl (stays.trans same)
      · obtain ⟨a,mem,hit⟩ := later
        rw [same] at hit
        exact Or.inr ⟨a,List.mem_cons_of_mem _ mem,hit⟩
    · exact Or.inr ⟨(op,(macStep ml op).1),List.mem_cons_self,now⟩

theorem lookupChangeRevalidated {secret : UInt32} {ml : MacLearning} (reach : Reachable macApply (macLearningCreate secret) ml)
    (unicast : ethAddrIsMulticast mac = false) (ops : List Op) (undisturbed : quiet mac vlan ml ops = true)
    (moved : macLearningLookup (after macStep ml ops) mac vlan ≠ (macLearningLookupTag ml mac vlan 0).1) :
    ∃ a ∈ answers macStep ml ops, revalidates (macLearningLookupTag ml mac vlan 0).2 a.2 = true := by
  rcases quietRevalidates ops (reachableRepresented reach) unicast undisturbed with same | found
  · exact absurd (congrArg Prod.fst same) moved
  · exact found

theorem learnedAddressRevalidated : ethAddrIsMulticast #v[0,1,2,3,4,5] = false ∧
    ∃ a ∈ answers macStep (macLearningCreate 0) [.learn #v[0,1,2,3,4,5] 0 1 0 ⟨3,7,by decide⟩],
      revalidates (macLearningLookupTag (macLearningCreate 0) #v[0,1,2,3,4,5] 0 0).2 a.2 = true :=
  ⟨by decide,lookupChangeRevalidated .init (by decide) _ (by decide +kernel) (by decide +kernel)⟩

/- mac_learning_run with a null set, as the learning switch and in-band control call it: the entry expires,
the port changes to OFPP_FLOOD, and no answer carries the tag the earlier lookup added. -/
theorem nullRunDropsTag :
    Reachable macApply (macLearningCreate 0) (after macStep (macLearningCreate 0) [.learn #v[0,1,2,3,4,5] 0 1 0 ⟨3,7,by decide⟩]) ∧
    macLearningLookupTag (after macStep (macLearningCreate 0) [.learn #v[0,1,2,3,4,5] 0 1 0 ⟨3,7,by decide⟩])
      #v[0,1,2,3,4,5] 0 0 = (1,0x88) ∧
    macLearningLookup (after macStep (macLearningCreate 0)
      [.learn #v[0,1,2,3,4,5] 0 1 0 ⟨3,7,by decide⟩,.run 100 none]) #v[0,1,2,3,4,5] 0 = ofppFlood ∧
    ∀ a ∈ answers macStep (after macStep (macLearningCreate 0) [.learn #v[0,1,2,3,4,5] 0 1 0 ⟨3,7,by decide⟩])
      [.run 100 none], revalidates 0x88 a.2 = false := by
  refine ⟨reachableIffRun.mpr ⟨_,rfl⟩,by decide +kernel,by decide +kernel,?_⟩
  simp [answers,macStep,macLearningRun,runLoopNoSet,revalidates]

end Revalidation

end OpenFlow.MacTable
