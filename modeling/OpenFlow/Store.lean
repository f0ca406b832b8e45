import OpenFlow.FlowMod

/-! Which flows the tables of a chain store, and the invariant every reachable chain keeps that the hash
tables' shortcuts rely on: a flow sits in the bucket its key hashes to, and its key has the zero pad
flow_extract_match gives it. -/
namespace OpenFlow.Store
open Slots TableHash TableLinear Chain FlowMod StepSystem

/- The flows of a table in the order its passes meet them: bucket by bucket, subtable 0 before subtable 1, and
the linear table's list. -/
def tableHashStored (th : SwTableHash) : List SwFlow := contents (allBuckets th) th.buckets

def tableStored : SwTable → List SwFlow
  | .hash th => tableHashStored th
  | .hash2 t2 => tableHashStored t2.subtable0 ++ tableHashStored t2.subtable1
  | .linear tl => tl.flows

def chainStored (chain : SwChain) : List SwFlow := chain.tables.flatMap tableStored

def Placed (th : SwTableHash) : Prop :=
  ∀ i flow, th.buckets i = some flow → i = findBucket th flow.key ∧ flow.key.flow.pad = zeroPad

def TablePlaced : SwTable → Prop
  | .hash th => Placed th
  | .hash2 t2 => Placed t2.subtable0 ∧ Placed t2.subtable1
  | .linear _ => True

structure ChainPlaced (chain : SwChain) : Prop where
  tables : ∀ t ∈ chain.tables, TablePlaced t
  emerg : TablePlaced chain.emergTable

theorem findBucketOfFlow (th : SwTableHash) {k k' : SwFlowKey} (same : k.flow = k'.flow) :
    findBucket th k = findBucket th k' := by
  simp [findBucket,same]

theorem findBucketMem (th : SwTableHash) (key : SwFlowKey) : findBucket th key ∈ allBuckets th := by
  have le : findBucket th key ≤ th.bucketMask.toNat := by
    simp only [findBucket,UInt32.toNat_and]
    exact Nat.and_le_right
  simp only [allBuckets,List.mem_range]
  omega

theorem visitedNodup (th : SwTableHash) (key : SwFlowKey) : (visited th key).Nodup := by
  unfold visited
  split
  · exact List.nodup_singleton _
  · exact List.nodup_range

theorem visitedSublist (th : SwTableHash) (key : SwFlowKey) : (visited th key).Sublist (allBuckets th) := by
  unfold visited
  split
  · exact List.singleton_sublist.mpr (findBucketMem th key)
  · exact List.Sublist.refl _

theorem modifyActPick (key : SwFlowKey) (priority : UInt16) (strict : Bool) (actions : List UInt8) :
    modifyAct key priority strict actions =
      pick (fun flow => flowMatchesDesc flow.key key strict && (!strict || flow.priority == priority))
        (fun flow => some (flowReplaceActs flow actions)) := rfl

theorem deleteActPick (key : SwFlowKey) (outPort : UInt16) (strict : Bool) :
    deleteAct key outPort strict =
      pick (fun flow => (if key.wildcards = 0 then !flowCompare flow.key.flow key.flow
          else flowMatchesDesc flow.key key strict) && flowHasOutPort flow outPort) (fun _ => none) := rfl

theorem modifyActKey (key : SwFlowKey) (priority : UInt16) (strict : Bool) (actions : List UInt8) :
    ∀ x after out y, modifyAct key priority strict actions x = some (after,out) → after = some y → x.key = y.key := by
  intro x after out y act put
  cases pickPut _ _ x after out y (modifyActPick key priority strict actions ▸ act) put
  rfl

theorem deleteActKey (key : SwFlowKey) (outPort : UInt16) (strict : Bool) :
    ∀ x after out y, deleteAct key outPort strict x = some (after,out) → after = some y → x.key = y.key := by
  intro x after out y act put
  cases pickPut _ _ x after out y (deleteActPick key outPort strict ▸ act) put

theorem timeoutActKey (now : UInt64) :
    ∀ x after out y, timeoutAct now x = some (after,out) → after = some y → x.key = y.key := by
  intro x after out y act put
  obtain ⟨reason,-,done⟩ := Option.map_eq_some_iff.mp act
  cases done
  cases put

section Placed
variable {th : SwTableHash} (placed : Placed th)
include placed

theorem placedStoredPad {flow : SwFlow} (mem : flow ∈ tableHashStored th) : flow.key.flow.pad = zeroPad := by
  obtain ⟨i,-,slot⟩ := List.mem_filterMap.mp mem
  exact (placed i flow slot).2

theorem placedOfKeys {th' : SwTableHash} (crc : th'.crc32 = th.crc32) (mask : th'.bucketMask = th.bucketMask)
    (keys : ∀ i flow, th'.buckets i = some flow → ∃ old, th.buckets i = some old ∧ old.key = flow.key) :
    Placed th' := by
  intro i flow slot
  obtain ⟨old,before,key⟩ := keys i flow slot
  obtain ⟨here,pad⟩ := placed i old before
  have sameHash : findBucket th' flow.key = findBucket th flow.key := by
    simp [findBucket,crc,mask]
  rw [sameHash,← key]
  exact ⟨here,pad⟩

theorem placedSweep {act : SwFlow → Option (Option SwFlow × SwFlow)} {is : List Nat} (nodup : is.Nodup)
    (keeps : ∀ x after out y, act x = some (after,out) → after = some y → x.key = y.key)
    {th' : SwTableHash} (crc : th'.crc32 = th.crc32) (mask : th'.bucketMask = th.bucketMask)
    (buckets : th'.buckets = (sweep act is th.buckets).1) : Placed th' := by
  refine placedOfKeys placed crc mask fun i flow slot => ?_
  rw [buckets] at slot
  exact sweepSlotFrom (R := fun x y => x.key = y.key) (fun _ => rfl) keeps nodup th.buckets slot

theorem placedInsert {flow : SwFlow} (pad : flow.key.flow.pad = zeroPad) : Placed (tableHashInsert th flow).2 := by
  have put : Placed (setBucket th (findBucket th flow.key) (some flow)) :=
    updateHolds placed ⟨rfl,pad⟩
  unfold tableHashInsert
  split
  · exact placed
  · dsimp only
    split
    · exact put
    · split
      · exact put
      · exact placed

theorem placedModify (key : SwFlowKey) (priority : UInt16) (strict : Bool) (actions : List UInt8) :
    Placed (tableHashModify th key priority strict actions).2 :=
  placedSweep placed (visitedNodup th key) (modifyActKey key priority strict actions) rfl rfl rfl

theorem placedDelete (key : SwFlowKey) (outPort : UInt16) (strict : Bool) :
    Placed (tableHashDelete th key outPort strict).2 :=
  placedSweep placed (visitedNodup th key) (deleteActKey key outPort strict) rfl rfl rfl

theorem placedTimeout (now : UInt64) : Placed (tableHashTimeout th now).2 :=
  placedSweep placed List.nodup_range (timeoutActKey now) rfl rfl rfl

end Placed

section Table
variable {t : SwTable} (placed : TablePlaced t)
include placed

theorem tablePlacedInsert {flow : SwFlow} (pad : flow.key.flow.pad = zeroPad) : TablePlaced (t.insert flow).2 := by
  cases t with
  | hash th => exact placedInsert placed pad
  | hash2 t2 =>
    obtain ⟨sub0,sub1⟩ := placed
    simp only [SwTable.insert,tableHash2Insert]
    split
    · rename_i into0
      have keep := placedInsert sub0 pad
      rw [into0] at keep
      exact ⟨keep,sub1⟩
    · exact ⟨sub0,placedInsert sub1 pad⟩
  | linear tl => trivial

theorem tablePlacedModify (key : SwFlowKey) (priority : UInt16) (strict : Bool) (actions : List UInt8) :
    TablePlaced (t.modify key priority strict actions).2 := by
  cases t with
  | hash th => exact placedModify placed key priority strict actions
  | hash2 t2 => exact ⟨placedModify placed.1 key priority strict actions,placedModify placed.2 key priority strict actions⟩
  | linear tl => trivial

theorem tablePlacedDelete (key : SwFlowKey) (outPort priority : UInt16) (strict : Bool) :
    TablePlaced (t.delete key outPort priority strict).2 := by
  cases t with
  | hash th => exact placedDelete placed key outPort strict
  | hash2 t2 => exact ⟨placedDelete placed.1 key outPort strict,placedDelete placed.2 key outPort strict⟩
  | linear tl => trivial

theorem tablePlacedTimeout (now : UInt64) : TablePlaced (t.timeout now).2 := by
  cases t with
  | hash th => exact placedTimeout placed now
  | hash2 t2 => exact ⟨placedTimeout placed.1 now,placedTimeout placed.2 now⟩
  | linear tl => trivial

end Table

/- A property of tables that every change the chain makes to a table keeps, as long as the flows it inserts
have `FP`. -/
structure TableInvariant (TP : SwTable → Prop) (FP : SwFlow → Prop) : Prop where
  insert : ∀ {t : SwTable} {flow : SwFlow}, TP t → FP flow → TP (t.insert flow).2
  modify : ∀ {t : SwTable} (key : SwFlowKey) (priority : UInt16) (strict : Bool) (actions : List UInt8),
    TP t → TP (t.modify key priority strict actions).2
  delete : ∀ {t : SwTable} (key : SwFlowKey) (outPort priority : UInt16) (strict : Bool),
    TP t → TP (t.delete key outPort priority strict).2
  timeout : ∀ {t : SwTable} (now : UInt64), TP t → TP (t.timeout now).2

/- The property on every table of a chain, the emergency table included. -/
structure ChainHolds (TP : SwTable → Prop) (chain : SwChain) : Prop where
  tables : ∀ t ∈ chain.tables, TP t
  emerg : TP chain.emergTable

theorem mapHolds {TP : SwTable → Prop} {f : SwTable → SwTable} (keeps : ∀ t, TP t → TP (f t)) {tables : List SwTable}
    (holds : ∀ t ∈ tables, TP t) : ∀ t ∈ tables.map f, TP t := by
  intro t mem
  obtain ⟨old,kept,rfl⟩ := List.mem_map.mp mem
  exact keeps old (holds old kept)

/- A property of whole chains that every change recv_flow and the timeout sweep make keeps, as long as the
flows inserted have `FP`. -/
structure ChainInvariant (CP : SwChain → Prop) (FP : SwFlow → Prop) : Prop where
  insert : ∀ {chain chain' : SwChain} {flow : SwFlow} {emerg : Bool}, CP chain → FP flow →
    chainInsert chain flow emerg = some chain' → CP chain'
  modify : ∀ {chain : SwChain} (key : SwFlowKey) (priority : UInt16) (strict : Bool) (actions : List UInt8)
    (emerg : Bool), CP chain → CP (chainModify chain key priority strict actions emerg).2
  delete : ∀ {chain : SwChain} (key : SwFlowKey) (outPort priority : UInt16) (strict emerg : Bool),
    CP chain → CP (chainDelete chain key outPort priority strict emerg).2
  timeout : ∀ {chain : SwChain} (now : UInt64), CP chain → CP (chainTimeout chain now).2

section ChainInvariant
variable {CP : SwChain → Prop} {FP : SwFlow → Prop} (inv : ChainInvariant CP FP)
  (newFlows : ∀ ofm now, FP (newFlow ofm now))
include inv newFlows

theorem invariantInsertOrFull {chain : SwChain} (holds : CP chain) (ofm : OfpFlowMod) (now : UInt64) (emerg : Bool) :
    CP (insertOrFull chain (newFlow ofm now) emerg).chain := by
  unfold insertOrFull
  split
  · rename_i chain' done
    exact inv.insert holds (newFlows ofm now) done
  · exact holds

theorem invariantRecvFlow {chain : SwChain} (holds : CP chain) (ofm : OfpFlowMod) (now : UInt64) :
    CP (recvFlow chain ofm now).chain := by
  unfold recvFlow deleteFlow
  split
  · -- add_flow: a rejected flow-mod leaves the chain
    dsimp only [addFlow]
    split
    · exact holds
    · split
      · exact holds
      · split
        · exact holds
        · exact invariantInsertOrFull inv newFlows holds ofm now _
  · split
    · -- mod_flow modifies, and inserts when nothing was modified
      dsimp only [modFlow]
      split
      · exact holds
      · split
        · exact inv.modify _ _ _ _ _ holds
        · exact invariantInsertOrFull inv newFlows (inv.modify _ _ _ _ _ holds) ofm now _
    · split
      · exact inv.delete _ _ _ _ _ holds
      · split
        · exact inv.delete _ _ _ _ _ holds
        · exact holds

theorem invariantStep {chain : SwChain} (holds : CP chain) (event : ChainEvent) : CP (chainStep chain event) := by
  cases event with
  | flowMod ofm now => exact invariantRecvFlow inv newFlows holds ofm now
  | timeout now => exact inv.timeout now holds

theorem invariantReachable (created : CP chainCreate) {chain : SwChain} (reach : ChainReachable chain) : CP chain :=
  Reachable.invariant created (fun _ event holds => invariantStep inv newFlows holds event) reach

end ChainInvariant

section Invariant
variable {TP : SwTable → Prop} {FP : SwFlow → Prop} (inv : TableInvariant TP FP)
include inv

theorem insertFirstHolds {flow : SwFlow} (fp : FP flow) :
    ∀ {tables tables' : List SwTable}, (∀ t ∈ tables, TP t) → insertFirst tables flow = some tables' →
      ∀ t ∈ tables', TP t
  | [], _, _, done => by cases done
  | t :: ts, tables', holds, done => by
    have head := holds t List.mem_cons_self
    have rest : ∀ t ∈ ts, TP t := fun t mem => holds t (List.mem_cons_of_mem _ mem)
    unfold insertFirst at done
    split at done
    · -- the first table took the flow
      rename_i into
      cases done
      intro t' mem
      rcases List.mem_cons.mp mem with here | later
      · have keep := inv.insert head fp
        rw [into] at keep
        exact here ▸ keep
      · exact rest t' later
    · -- it refused, and the rest of the chain was tried
      obtain ⟨ts',found,rfl⟩ := Option.map_eq_some_iff.mp done
      intro t' mem
      rcases List.mem_cons.mp mem with here | later
      · exact here ▸ head
      · exact insertFirstHolds fp rest found t' later

section Chain
variable {chain : SwChain} (holds : ChainHolds TP chain)
include holds

theorem chainHoldsInsert {flow : SwFlow} (fp : FP flow) {emerg : Bool} {chain' : SwChain}
    (done : chainInsert chain flow emerg = some chain') : ChainHolds TP chain' := by
  unfold chainInsert at done
  split at done
  · split at done
    · rename_i into
      cases done
      have keep := inv.insert holds.emerg fp
      rw [into] at keep
      exact ⟨holds.tables,keep⟩
    · cases done
  · obtain ⟨tables,found,rfl⟩ := Option.map_eq_some_iff.mp done
    exact ⟨insertFirstHolds inv fp holds.tables found,holds.emerg⟩

theorem chainHoldsModify (key : SwFlowKey) (priority : UInt16) (strict : Bool) (actions : List UInt8) (emerg : Bool) :
    ChainHolds TP (chainModify chain key priority strict actions emerg).2 := by
  unfold chainModify
  split
  · exact ⟨holds.tables,inv.modify key priority strict actions holds.emerg⟩
  · refine ⟨?_,holds.emerg⟩
    simp only [List.map_map]
    exact mapHolds (fun _ kept => inv.modify key priority strict actions kept) holds.tables

theorem chainHoldsDelete (key : SwFlowKey) (outPort priority : UInt16) (strict emerg : Bool) :
    ChainHolds TP (chainDelete chain key outPort priority strict emerg).2 := by
  unfold chainDelete
  split
  · exact ⟨holds.tables,inv.delete key outPort priority strict holds.emerg⟩
  · refine ⟨?_,holds.emerg⟩
    simp only [List.map_map]
    exact mapHolds (fun _ kept => inv.delete key outPort priority strict kept) holds.tables

theorem chainHoldsTimeout (now : UInt64) : ChainHolds TP (chainTimeout chain now).2 := by
  refine ⟨?_,holds.emerg⟩
  simp only [chainTimeout,List.map_map]
  exact mapHolds (fun _ kept => inv.timeout now kept) holds.tables

end Chain

theorem chainHoldsInvariant : ChainInvariant (ChainHolds TP) FP where
  insert holds fp done := chainHoldsInsert inv holds fp done
  modify key priority strict actions emerg holds := chainHoldsModify inv holds key priority strict actions emerg
  delete key outPort priority strict emerg holds := chainHoldsDelete inv holds key outPort priority strict emerg
  timeout now holds := chainHoldsTimeout inv holds now

theorem chainHoldsReachable (newFlows : ∀ ofm now, FP (newFlow ofm now)) (created : ChainHolds TP chainCreate)
    {chain : SwChain} (reach : ChainReachable chain) : ChainHolds TP chain :=
  invariantReachable (chainHoldsInvariant inv) newFlows created reach

end Invariant

theorem placedInvariant : TableInvariant TablePlaced fun flow => flow.key.flow.pad = zeroPad :=
  ⟨fun placed pad => tablePlacedInsert placed pad,fun key priority strict actions placed =>
    tablePlacedModify placed key priority strict actions,fun key outPort priority strict placed =>
    tablePlacedDelete placed key outPort priority strict,fun now placed => tablePlacedTimeout placed now⟩

theorem chainPlacedCreate : ChainPlaced chainCreate := by
  refine ⟨fun t mem => ?_,trivial⟩
  simp only [chainCreate,List.mem_cons,List.not_mem_nil,or_false] at mem
  rcases mem with rfl | rfl
  · -- every bucket of a new table is empty
    exact ⟨fun _ _ slot => (by cases slot),fun _ _ slot => (by cases slot)⟩
  · trivial

theorem chainPlacedReachable {chain : SwChain} (reach : ChainReachable chain) : ChainPlaced chain :=
  have holds := chainHoldsReachable placedInvariant (fun _ _ => rfl)
    ⟨chainPlacedCreate.tables,chainPlacedCreate.emerg⟩ reach
  ⟨holds.tables,holds.emerg⟩

/- Every flow a hash table holds has a key with `P`; the linear table is not constrained. -/
def HashKeys (P : SwFlowKey → Prop) (th : SwTableHash) : Prop :=
  ∀ i flow, th.buckets i = some flow → P flow.key

def TableKeys (P : SwFlowKey → Prop) : SwTable → Prop
  | .hash th => HashKeys P th
  | .hash2 t2 => HashKeys P t2.subtable0 ∧ HashKeys P t2.subtable1
  | .linear _ => True

/- The keys the hash tables hold: no wildcards and no ignored address bits. -/
def ExactKey (key : SwFlowKey) : Prop :=
  key.wildcards = 0 ∧ key.nwSrcMask = ~~~0 ∧ key.nwDstMask = ~~~0

section Keys
variable {P : SwFlowKey → Prop}

theorem hashKeysSweep {th : SwTableHash} (keys : HashKeys P th) {act : SwFlow → Option (Option SwFlow × SwFlow)}
    {is : List Nat} (nodup : is.Nodup) (keeps : ∀ x after out y, act x = some (after,out) → after = some y → x.key = y.key)
    {th' : SwTableHash} (buckets : th'.buckets = (sweep act is th.buckets).1) : HashKeys P th' := by
  intro i flow slot
  rw [buckets] at slot
  obtain ⟨old,before,same⟩ := sweepSlotFrom (R := fun x y => x.key = y.key) (fun _ => rfl) keeps nodup th.buckets slot
  exact same ▸ keys i old before

theorem hashKeysInsert {th : SwTableHash} (keys : HashKeys P th) {flow : SwFlow}
    (exact : flow.key.wildcards = 0 → P flow.key) : HashKeys P (tableHashInsert th flow).2 := by
  unfold tableHashInsert
  split
  · exact keys
  · rename_i noWild
    have put : HashKeys P (setBucket th (findBucket th flow.key) (some flow)) :=
      updateHolds (Q := fun _ (f : SwFlow) => P f.key) keys (exact (not_not.mp noWild))
    dsimp only
    split
    · exact put
    · split
      · exact put
      · exact keys

theorem keysInvariant : TableInvariant (TableKeys P) fun flow => flow.key.wildcards = 0 → P flow.key where
  insert := by
    intro t flow keys exact
    cases t with
    | hash th => exact hashKeysInsert keys exact
    | hash2 t2 =>
      obtain ⟨sub0,sub1⟩ := keys
      simp only [SwTable.insert,tableHash2Insert]
      split
      · rename_i into0
        have keep := hashKeysInsert sub0 exact
        rw [into0] at keep
        exact ⟨keep,sub1⟩
      · exact ⟨sub0,hashKeysInsert sub1 exact⟩
    | linear tl => trivial
  modify := by
    intro t key priority strict actions keys
    have sweep (th : SwTableHash) (keys : HashKeys P th) : HashKeys P (tableHashModify th key priority strict actions).2 :=
      hashKeysSweep keys (visitedNodup th key) (modifyActKey key priority strict actions) rfl
    cases t with
    | hash th => exact sweep th keys
    | hash2 t2 => exact ⟨sweep _ keys.1,sweep _ keys.2⟩
    | linear tl => trivial
  delete := by
    intro t key outPort priority strict keys
    have sweep (th : SwTableHash) (keys : HashKeys P th) : HashKeys P (tableHashDelete th key outPort strict).2 :=
      hashKeysSweep keys (visitedNodup th key) (deleteActKey key outPort strict) rfl
    cases t with
    | hash th => exact sweep th keys
    | hash2 t2 => exact ⟨sweep _ keys.1,sweep _ keys.2⟩
    | linear tl => trivial
  timeout := by
    intro t now keys
    have sweep (th : SwTableHash) (keys : HashKeys P th) : HashKeys P (tableHashTimeout th now).2 :=
      hashKeysSweep keys List.nodup_range (timeoutActKey now) rfl
    cases t with
    | hash th => exact sweep th keys
    | hash2 t2 => exact ⟨sweep _ keys.1,sweep _ keys.2⟩
    | linear tl => trivial

theorem chainKeysCreate : ChainHolds (TableKeys P) chainCreate := by
  refine ⟨fun t mem => ?_,trivial⟩
  simp only [chainCreate,List.mem_cons,List.not_mem_nil,or_false] at mem
  rcases mem with rfl | rfl
  · exact ⟨fun _ _ slot => (by cases slot),fun _ _ slot => (by cases slot)⟩
  · trivial

end Keys

theorem chainExactReachable {chain : SwChain} (reach : ChainReachable chain) : ChainHolds (TableKeys ExactKey) chain :=
  chainHoldsReachable keysInvariant (fun ofm _ exact => ⟨exact,flowExtractMatchMasks ofm.ofpMatch exact⟩)
    chainKeysCreate reach

end OpenFlow.Store
