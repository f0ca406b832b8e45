import OpenFlow.Store
import OpenFlow.Iterate
import OpenFlow.ChainRules

/-! Which stored flows non-strict OFPFC_DELETE and OFPFC_MODIFY and the flow statistics select. -/
namespace OpenFlow.Select
open Actions Slots TableHash TableLinear Chain FlowMod Store Iterate StepSystem ChainRules

/- The test non-strict delete applies to every stored flow, and the one of modify. -/
def deleteSelected (d : SwFlowKey) (outPort : UInt16) (flow : SwFlow) : Bool :=
  flowMatches1wild flow.key d && flowHasOutPort flow outPort

def modifySelected (d : SwFlowKey) (flow : SwFlow) : Bool := flowMatches1wild flow.key d

/- The linear table's entries in the order of `iter_flows`. -/
def linearIterOrder (tl : SwTableLinear) : List SwFlow :=
  tl.iterFlows.filterMap fun serial => tl.flows.find? (·.serial == serial)

/- What a whole iteration of a table hands its callback. -/
def statsSelected (d : SwFlowKey) (outPort : UInt16) : SwTable → List SwFlow
  | .linear tl => (linearIterOrder tl).filter fun flow => flowMatches2wild d flow.key && flowHasOutPort flow outPort
  | t => (tableStored t).filter (deleteSelected d outPort)

/- The callback's state after it has been handed `flows`. -/
def feed {σ : Type} (cb : Callback σ) (st : σ) (flows : List SwFlow) : σ :=
  flows.foldl (fun st flow => (cb st flow).1) st

/- A pass that picks flows of a hash table through a sublist of its buckets acts as a pass over every bucket,
when no skipped bucket holds a flow it picks. -/
section HashPass
variable {th : SwTableHash} {sel : SwFlow → Bool} {upd : SwFlow → Option SwFlow} {is : List Nat}
  (sub : is.Sublist (allBuckets th)) (outside : ∀ i flow, i ∉ is → th.buckets i = some flow → sel flow = false)
include sub outside

theorem hashPassReport : (sweep (pick sel upd) is th.buckets).2 = (tableHashStored th).filter sel := by
  rw [sweepPickReport sel upd (List.nodup_range.sublist sub)]
  refine contentsFilterSublist sel sub List.nodup_range th.buckets fun i _ picked => ?_
  by_contra out
  cases slot : th.buckets i with
  | none => simp [slot] at picked
  | some flow => simp [slot,Option.filter,outside i flow out slot] at picked

theorem hashPassContents :
    contents (allBuckets th) (sweep (pick sel upd) is th.buckets).1 =
      contents (allBuckets th) fun i => settled (pick sel upd) (th.buckets i) := by
  rw [sweepSlots (List.nodup_range.sublist sub),settledOfUnselected]
  intro i out
  cases slot : th.buckets i with
  | none => rfl
  | some flow => simp [pick,outside i flow out slot]

end HashPass

section Placed
variable {th : SwTableHash} (placed : Placed th)
include placed

theorem visitedOutside {key : SwFlowKey} {sel : SwFlow → Bool}
    (exactFields : key.wildcards = 0 → ∀ flow, flow.key.flow.pad = zeroPad → sel flow = true → flow.key.flow = key.flow) :
    ∀ i flow, i ∉ visited th key → th.buckets i = some flow → sel flow = false := by
  intro i flow out slot
  obtain ⟨here,pad⟩ := placed i flow slot
  unfold visited at out
  split at out
  · -- a flow with `key`'s fields sits in the one bucket visited
    rename_i exact
    cases taken : sel flow with
    | false => rfl
    | true =>
      have same := exactFields exact flow pad taken
      exact absurd (List.mem_singleton.mpr (here.trans (findBucketOfFlow th same))) out
  · exact absurd (here ▸ findBucketMem th flow.key) out

end Placed

section Description
variable (m : OfpMatch)

theorem deleteSelAgrees (outPort : UInt16) {flow : SwFlow} (pad : flow.key.flow.pad = zeroPad) :
    ((if (flowExtractMatch m).wildcards = 0 then !flowCompare flow.key.flow (flowExtractMatch m).flow
      else flowMatchesDesc flow.key (flowExtractMatch m) false) && flowHasOutPort flow outPort) =
      deleteSelected (flowExtractMatch m) outPort flow := by
  unfold deleteSelected
  split
  · rename_i exact
    have iff := flowMatches1wildExact m exact pad
    by_cases same : flow.key.flow = (flowExtractMatch m).flow
    · simp [flowCompare,same,iff.mpr same]
    · have miss : flowMatches1wild flow.key (flowExtractMatch m) = false := by
        cases hit : flowMatches1wild flow.key (flowExtractMatch m) with
        | false => rfl
        | true => exact absurd (iff.mp hit) same
      simp [flowCompare,same,miss]
  · simp [flowMatchesDesc]

theorem modifySelAgrees (priority : UInt16) :
    (fun flow : SwFlow => flowMatchesDesc flow.key (flowExtractMatch m) false && (!false || flow.priority == priority)) =
      modifySelected (flowExtractMatch m) := by
  funext flow
  simp [flowMatchesDesc,modifySelected]

theorem deleteExactFields (outPort : UInt16) (exact : (flowExtractMatch m).wildcards = 0) (flow : SwFlow)
    (pad : flow.key.flow.pad = zeroPad)
    (taken : ((if (flowExtractMatch m).wildcards = 0 then !flowCompare flow.key.flow (flowExtractMatch m).flow
      else flowMatchesDesc flow.key (flowExtractMatch m) false) && flowHasOutPort flow outPort) = true) :
    flow.key.flow = (flowExtractMatch m).flow := by
  rw [deleteSelAgrees m outPort pad,deleteSelected,Bool.and_eq_true] at taken
  exact (flowMatches1wildExact m exact pad).mp taken.1

theorem modifyExactFields (exact : (flowExtractMatch m).wildcards = 0) (flow : SwFlow)
    (pad : flow.key.flow.pad = zeroPad) (taken : modifySelected (flowExtractMatch m) flow = true) :
    flow.key.flow = (flowExtractMatch m).flow :=
  (flowMatches1wildExact m exact pad).mp taken

section Hash
variable {th : SwTableHash} (placed : Placed th)
include placed

theorem tableHashDeleteSelect (outPort : UInt16) :
    (tableHashDelete th (flowExtractMatch m) outPort false).1 =
      (tableHashStored th).filter (deleteSelected (flowExtractMatch m) outPort) ∧
    tableHashStored (tableHashDelete th (flowExtractMatch m) outPort false).2 =
      (tableHashStored th).filter fun flow => !deleteSelected (flowExtractMatch m) outPort flow := by
  have outside := visitedOutside placed (deleteExactFields m outPort)
  have agrees : ∀ flow ∈ tableHashStored th, _ = deleteSelected (flowExtractMatch m) outPort flow :=
    fun flow mem => deleteSelAgrees m outPort (placedStoredPad placed mem)
  dsimp only [tableHashDelete]
  rw [deleteActPick]
  constructor
  · rw [hashPassReport (visitedSublist th _) outside]
    exact List.filter_congr agrees
  · show contents (allBuckets th) (sweep _ (visited th _) th.buckets).1 = _
    rw [hashPassContents (visitedSublist th _) outside,contentsSettledDrop]
    exact List.filter_congr fun flow mem => by rw [agrees flow mem]

theorem tableHashModifySelect (priority : UInt16) (actions : List UInt8) :
    (tableHashModify th (flowExtractMatch m) priority false actions).1 =
      ((tableHashStored th).filter (modifySelected (flowExtractMatch m))).length ∧
    tableHashStored (tableHashModify th (flowExtractMatch m) priority false actions).2 =
      (tableHashStored th).map fun flow =>
        if modifySelected (flowExtractMatch m) flow then flowReplaceActs flow actions else flow := by
  have outside : ∀ i flow, i ∉ visited th (flowExtractMatch m) → th.buckets i = some flow →
      modifySelected (flowExtractMatch m) flow = false :=
    visitedOutside placed (modifyExactFields m)
  dsimp only [tableHashModify]
  rw [modifyActPick,modifySelAgrees]
  constructor
  · rw [hashPassReport (visitedSublist th _) outside]
  · show contents (allBuckets th) (sweep _ (visited th _) th.buckets).1 = _
    rw [hashPassContents (visitedSublist th _) outside,contentsSettledMap]
    rfl

theorem lookupExact (outPort : UInt16) (exact : (flowExtractMatch m).wildcards = 0) :
    (tableHashLookup th (flowExtractMatch m)).toList.filter (fun flow => flowHasOutPort flow outPort) =
      (tableHashStored th).filter (deleteSelected (flowExtractMatch m) outPort) := by
  have fields : ∀ t : SwFlowKey, t.flow.pad = zeroPad →
      (flowMatches1wild t (flowExtractMatch m) = true ↔ t.flow = (flowExtractMatch m).flow) :=
    fun _ pad => flowMatches1wildExact m exact pad
  have visitedOne : visited th (flowExtractMatch m) = [findBucket th (flowExtractMatch m)] := by
    simp [visited,exact]
  generalize flowExtractMatch m = d at fields visitedOne ⊢
  have outside : ∀ i flow, i ∉ visited th d → th.buckets i = some flow → deleteSelected d outPort flow = false :=
    visitedOutside placed fun _ flow pad taken => (fields flow.key pad).mp ((Bool.and_eq_true _ _).mp taken).1
  have one : (tableHashStored th).filter (deleteSelected d outPort) =
      (contents [findBucket th d] th.buckets).filter (deleteSelected d outPort) := by
    rw [← visitedOne]
    refine (contentsFilterSublist _ (visitedSublist th _) List.nodup_range th.buckets fun i _ picked => ?_).symm
    by_contra out
    cases slot : th.buckets i with
    | none => simp [slot] at picked
    | some flow => simp [slot,Option.filter,outside i flow out slot] at picked
  rw [one]
  unfold tableHashLookup
  cases slot : th.buckets (findBucket th d) with
  | none => simp [contents,slot]
  | some flow =>
    obtain ⟨-,pad⟩ := placed _ flow slot
    by_cases same : flow.key.flow = d.flow
    · simp only [contents,List.filterMap_cons,List.filterMap_nil,slot,flowCompareFalse.mpr same,Bool.not_false,
        if_true,Option.toList_some]
      simp [List.filter_cons,deleteSelected,(fields _ pad).mpr same]
    · have differ : flowCompare flow.key.flow d.flow = true := by simpa [flowCompare] using same
      have miss : flowMatches1wild flow.key d = false := by
        cases hit : flowMatches1wild flow.key d with
        | false => rfl
        | true => exact absurd ((fields _ pad).mp hit) same
      simp [contents,slot,differ,deleteSelected,miss]

end Hash

theorem tableDeleteSelect {t : SwTable} (placed : TablePlaced t) (outPort priority : UInt16) :
    (t.delete (flowExtractMatch m) outPort priority false).1 =
      (tableStored t).filter (deleteSelected (flowExtractMatch m) outPort) ∧
    tableStored (t.delete (flowExtractMatch m) outPort priority false).2 =
      (tableStored t).filter fun flow => !deleteSelected (flowExtractMatch m) outPort flow := by
  cases t with
  | hash th => exact tableHashDeleteSelect m placed outPort
  | hash2 t2 =>
    obtain ⟨gone0,left0⟩ := tableHashDeleteSelect m placed.1 outPort
    obtain ⟨gone1,left1⟩ := tableHashDeleteSelect m placed.2 outPort
    simp only [SwTable.delete,tableHash2Delete,tableStored,List.filter_append]
    exact ⟨by rw [gone0,gone1],by rw [left0,left1]⟩
  | linear tl =>
    have same : deleteSelects (flowExtractMatch m) outPort priority false = deleteSelected (flowExtractMatch m) outPort := by
      funext flow
      simp [deleteSelects,deleteSelected,flowMatchesDesc]
    constructor <;> simp only [SwTable.delete,tableLinearDelete,tableStored,same]

theorem tableModifySelect {t : SwTable} (placed : TablePlaced t) (priority : UInt16) (actions : List UInt8) :
    (t.modify (flowExtractMatch m) priority false actions).1 =
      ((tableStored t).filter (modifySelected (flowExtractMatch m))).length ∧
    tableStored (t.modify (flowExtractMatch m) priority false actions).2 =
      (tableStored t).map fun flow =>
        if modifySelected (flowExtractMatch m) flow then flowReplaceActs flow actions else flow := by
  cases t with
  | hash th => exact tableHashModifySelect m placed priority actions
  | hash2 t2 =>
    obtain ⟨count0,left0⟩ := tableHashModifySelect m placed.1 priority actions
    obtain ⟨count1,left1⟩ := tableHashModifySelect m placed.2 priority actions
    simp only [SwTable.modify,tableHash2Modify,tableStored,List.filter_append,List.length_append,List.map_append]
    exact ⟨by rw [count0,count1],by rw [left0,left1]⟩
  | linear tl =>
    have same : modifySelects (flowExtractMatch m) priority false = modifySelected (flowExtractMatch m) := by
      funext flow
      simp [modifySelects,modifySelected,flowMatchesDesc]
    constructor <;> simp only [SwTable.modify,tableLinearModify,tableStored,same]

theorem tablesDeleteSelect (outPort priority : UInt16) :
    ∀ tables : List SwTable, (∀ t ∈ tables, TablePlaced t) →
      ((tables.map fun t => t.delete (flowExtractMatch m) outPort priority false).map Prod.fst).flatten =
        (tables.flatMap tableStored).filter (deleteSelected (flowExtractMatch m) outPort) ∧
      ((tables.map fun t => t.delete (flowExtractMatch m) outPort priority false).map Prod.snd).flatMap tableStored =
        (tables.flatMap tableStored).filter fun flow => !deleteSelected (flowExtractMatch m) outPort flow
  | [], _ => ⟨rfl,rfl⟩
  | t :: ts, placed => by
    obtain ⟨gone,left⟩ := tableDeleteSelect m (placed t List.mem_cons_self) outPort priority
    obtain ⟨gones,lefts⟩ := tablesDeleteSelect outPort priority ts fun t mem => placed t (List.mem_cons_of_mem _ mem)
    simp only [List.map_cons,List.flatten_cons,List.flatMap_cons,List.filter_append]
    exact ⟨by rw [gone,gones],by rw [left,lefts]⟩

theorem tablesModifySelect (priority : UInt16) (actions : List UInt8) :
    ∀ tables : List SwTable, (∀ t ∈ tables, TablePlaced t) →
      ((tables.map fun t => t.modify (flowExtractMatch m) priority false actions).map Prod.fst).sum =
        ((tables.flatMap tableStored).filter (modifySelected (flowExtractMatch m))).length ∧
      ((tables.map fun t => t.modify (flowExtractMatch m) priority false actions).map Prod.snd).flatMap tableStored =
        (tables.flatMap tableStored).map fun flow =>
          if modifySelected (flowExtractMatch m) flow then flowReplaceActs flow actions else flow
  | [], _ => ⟨rfl,rfl⟩
  | t :: ts, placed => by
    obtain ⟨count,left⟩ := tableModifySelect m (placed t List.mem_cons_self) priority actions
    obtain ⟨counts,lefts⟩ := tablesModifySelect priority actions ts fun t mem => placed t (List.mem_cons_of_mem _ mem)
    simp only [List.map_cons,List.sum_cons,List.flatMap_cons,List.filter_append,List.length_append,List.map_append]
    exact ⟨by rw [count,counts],by rw [left,lefts]⟩

end Description

/- Iterations whose callback never stops them, as the aggregate statistics' does. -/
theorem serialBelowStart (serial : Nat) : serial.toUInt64 ≤ ~~~0 := by
  rw [UInt64.le_iff_toNat_le]
  have := serial.toUInt64.toNat_lt
  simp
  omega

section Feed
variable {σ : Type} {cb : Callback σ} (never : ∀ st flow, (cb st flow).2 = false)
include never

theorem goingOn (st : σ) (flow : SwFlow) : cb st flow = ((cb st flow).1,false) :=
  Prod.ext rfl (never st flow)

theorem hashIterateLoopFeed (th : SwTableHash) (key : SwFlowKey) (outPort : UInt16) (is : List Nat)
    (pos : SwTablePosition) (st : σ) :
    hashIterateLoop cb th key outPort is pos st =
      ⟨false,pos,feed cb st ((contents is th.buckets).filter fun flow =>
        flowMatches1wild flow.key key && flowHasOutPort flow outPort)⟩ := by
  induction is generalizing st with
  | nil => rfl
  | cons i is ih =>
    cases slot : th.buckets i with
    | none => simp only [hashIterateLoop,slot,ih,contents,List.filterMap_cons]
    | some flow =>
      by_cases hit : (flowMatches1wild flow.key key && flowHasOutPort flow outPort) = true
      · simp only [hashIterateLoop,slot,hit,if_true]
        rw [goingOn never st flow]
        simp only [ih,contents,List.filterMap_cons,slot,List.filter_cons,hit,if_true]
        rfl
      · simp only [hashIterateLoop,slot,hit,Bool.false_eq_true,if_false,ih,contents,List.filterMap_cons,
          List.filter_cons,Bool.false_eq_true,if_false]

theorem linearIterateLoopFeed (tl : SwTableLinear) (key : SwFlowKey) (outPort : UInt16) (serials : List Nat)
    (pos : SwTablePosition) (st : σ) :
    linearIterateLoop cb tl key outPort (~~~0) serials pos st =
      ⟨false,pos,feed cb st ((serials.filterMap fun serial => tl.flows.find? (·.serial == serial)).filter fun flow =>
        flowMatches2wild key flow.key && flowHasOutPort flow outPort)⟩ := by
  induction serials generalizing st with
  | nil => rfl
  | cons serial serials ih =>
    cases found : tl.flows.find? (·.serial == serial) with
    | none => simp only [linearIterateLoop,found,ih,List.filterMap_cons]
    | some flow =>
      have fresh := serialBelowStart flow.serial
      by_cases hit : (flowMatches2wild key flow.key && flowHasOutPort flow outPort) = true
      · simp only [linearIterateLoop,found,fresh,decide_true,Bool.true_and,hit,if_true]
        rw [goingOn never st flow]
        simp only [ih,List.filterMap_cons,found,List.filter_cons,hit,if_true]
        rfl
      · simp only [linearIterateLoop,found,fresh,decide_true,Bool.true_and,hit,Bool.false_eq_true,if_false,ih,
          List.filterMap_cons,List.filter_cons,Bool.false_eq_true,if_false]

theorem tableLinearIterateFeed (tl : SwTableLinear) (key : SwFlowKey) (outPort : UInt16) (st : σ) :
    tableLinearIterate cb tl key outPort .start st =
      ⟨false,.start,feed cb st ((linearIterOrder tl).filter fun flow =>
        flowMatches2wild key flow.key && flowHasOutPort flow outPort)⟩ :=
  linearIterateLoopFeed never tl key outPort tl.iterFlows .start st

theorem tableHashIterateFeed {th : SwTableHash} (placed : Placed th) (m : OfpMatch) (outPort : UInt16)
    (pos : SwTablePosition) (zero : pos.private0 = 0) (st : σ) :
    ∃ pos', tableHashIterate cb th (flowExtractMatch m) outPort pos st =
      ⟨false,pos',feed cb st ((tableHashStored th).filter (deleteSelected (flowExtractMatch m) outPort))⟩ := by
  unfold tableHashIterate
  have notPast : ¬ pos.private0.toNat > th.bucketMask.toNat := by simp [zero]
  rw [if_neg notPast]
  split
  · -- the flow the lookup finds is the one stored flow selected
    rename_i exact
    have found := lookupExact m placed outPort exact
    refine ⟨{ pos with private0 := -1 },?_⟩
    dsimp only
    cases lookup : tableHashLookup th (flowExtractMatch m) with
    | none =>
      rw [lookup] at found
      rw [← found]
      rfl
    | some flow =>
      rw [lookup] at found
      rw [← found]
      by_cases out : flowHasOutPort flow outPort = true
      · simp [out,feed,never st flow]
      · simp [out,feed]
  · refine ⟨pos,?_⟩
    rw [hashIterateLoopFeed never,zero]
    simp only [UInt64.toNat_zero,Nat.sub_zero,← List.range_eq_range']
    rfl

theorem tableIterateFeed {t : SwTable} (placed : TablePlaced t) (m : OfpMatch) (outPort : UInt16) (st : σ) :
    ∃ pos, tableIterate cb t (flowExtractMatch m) outPort .start st =
      ⟨false,pos,feed cb st (statsSelected (flowExtractMatch m) outPort t)⟩ := by
  cases t with
  | hash th => exact tableHashIterateFeed never placed m outPort .start rfl st
  | hash2 t2 =>
    obtain ⟨pos0,first⟩ := tableHashIterateFeed never placed.1 m outPort .start rfl st
    obtain ⟨pos1,second⟩ := tableHashIterateFeed never placed.2 m outPort
      { pos0 with private0 := 0,private1 := pos0.private1 + 1 } rfl
      (feed cb st ((tableHashStored t2.subtable0).filter (deleteSelected (flowExtractMatch m) outPort)))
    refine ⟨{ pos1 with private0 := 0,private1 := pos1.private1 + 1 },?_⟩
    have both : [t2.subtable0,t2.subtable1].drop SwTablePosition.start.private1.toNat = [t2.subtable0,t2.subtable1] := rfl
    simp only [tableIterate,tableHash2Iterate,both,hash2IterateLoop,first,Bool.false_eq_true,if_false]
    rw [second]
    simp only [Bool.false_eq_true,if_false,statsSelected,tableStored,List.filter_append,feed,List.foldl_append]
  | linear tl => exact ⟨_,tableLinearIterateFeed never tl _ outPort st⟩

end Feed

/- The callback's state after it has been handed `flows`, up to and including the first that stops the
iteration. -/
def feedUntil {σ : Type} (cb : Callback σ) (st : σ) : List SwFlow → σ
  | [] => st
  | flow :: flows => if (cb st flow).2 then (cb st flow).1 else feedUntil cb (cb st flow).1 flows

theorem linearIterateLoopUntil {σ : Type} (cb : Callback σ) (tl : SwTableLinear) (key : SwFlowKey) (outPort : UInt16)
    (serials : List Nat) (pos : SwTablePosition) (st : σ) :
    (linearIterateLoop cb tl key outPort (~~~0) serials pos st).state =
      feedUntil cb st ((serials.filterMap fun serial => tl.flows.find? (·.serial == serial)).filter fun flow =>
        flowMatches2wild key flow.key && flowHasOutPort flow outPort) := by
  induction serials generalizing st with
  | nil => rfl
  | cons serial serials ih =>
    cases found : tl.flows.find? (·.serial == serial) with
    | none => simp only [linearIterateLoop,found,ih,List.filterMap_cons]
    | some flow =>
      have fresh := serialBelowStart flow.serial
      by_cases hit : (flowMatches2wild key flow.key && flowHasOutPort flow outPort) = true
      · simp only [linearIterateLoop,found,fresh,decide_true,Bool.true_and,hit,if_true,List.filterMap_cons,
          List.filter_cons,feedUntil]
        cases answer : cb st flow with
        | mk st' stop =>
          cases stop
          · simp only [Bool.false_eq_true,if_false]
            exact ih st'
          · rfl
      · simp only [linearIterateLoop,found,fresh,decide_true,Bool.true_and,hit,Bool.false_eq_true,if_false,ih,
          List.filterMap_cons,List.filter_cons,Bool.false_eq_true,if_false]

theorem tableLinearIterateUntil {σ : Type} (cb : Callback σ) (tl : SwTableLinear) (key : SwFlowKey) (outPort : UInt16)
    (st : σ) :
    (tableLinearIterate cb tl key outPort .start st).state =
      feedUntil cb st ((linearIterOrder tl).filter fun flow => flowMatches2wild key flow.key && flowHasOutPort flow outPort) :=
  linearIterateLoopUntil cb tl key outPort tl.iterFlows .start st

theorem aggregateNeverStops : ∀ rpy flow, (aggregateStatsDumpCallback rpy flow).2 = false := fun _ _ => rfl

theorem aggregateTablesLoopFeed (m : OfpMatch) (outPort : UInt16) :
    ∀ (tables : List SwTable) (idx : Nat) (rpy : Iterate.OfpAggregateStatsReply), (∀ t ∈ tables, TablePlaced t) →
      aggregateTablesLoop 0xff (flowExtractMatch m) outPort idx tables rpy =
        some (feed aggregateStatsDumpCallback rpy (tables.flatMap (statsSelected (flowExtractMatch m) outPort)))
  | [], _, _, _ => rfl
  | t :: ts, idx, rpy, placed => by
    obtain ⟨pos,whole⟩ := tableIterateFeed aggregateNeverStops (placed t List.mem_cons_self) m outPort rpy
    have rest := aggregateTablesLoopFeed m outPort ts (idx + 1)
      (feed aggregateStatsDumpCallback rpy (statsSelected (flowExtractMatch m) outPort t))
      fun t mem => placed t (List.mem_cons_of_mem _ mem)
    simp only [aggregateTablesLoop,true_or,if_true,whole,Bool.false_eq_true,if_false]
    rw [rest]
    simp only [List.flatMap_cons,feed,List.foldl_append]

theorem aggregateStatsSelect {chain : SwChain} (placed : ChainPlaced chain) (m : OfpMatch) (outPort : UInt16) :
    aggregateStatsDump chain ⟨m,0xff,outPort⟩ =
      some (feed aggregateStatsDumpCallback ⟨0,0,0⟩ (chain.tables.flatMap (statsSelected (flowExtractMatch m) outPort))) := by
  have notEmerg : (0xff : UInt8) ≠ emergTableIdForStats := by decide
  simp only [aggregateStatsDump,notEmerg,if_false,if_true,List.drop_zero]
  exact aggregateTablesLoopFeed m outPort chain.tables 0 ⟨0,0,0⟩ placed.tables

/- Non-strict delete and modify over the chain's tables, and the aggregate statistics over all of them, on
every chain flow-mods and timeouts can build. -/
theorem nonStrictSelection {chain : SwChain} (reach : ChainReachable chain) (m : OfpMatch)
    (outPort priority : UInt16) (actions : List UInt8) :
    (chainDelete chain (flowExtractMatch m) outPort priority false false).1 =
      (chainStored chain).filter (deleteSelected (flowExtractMatch m) outPort) ∧
    chainStored (chainDelete chain (flowExtractMatch m) outPort priority false false).2 =
      (chainStored chain).filter (fun flow => !deleteSelected (flowExtractMatch m) outPort flow) ∧
    (chainDelete chain (flowExtractMatch m) outPort priority false false).2.emergTable = chain.emergTable ∧
    (chainModify chain (flowExtractMatch m) priority false actions false).1 =
      ((chainStored chain).filter (modifySelected (flowExtractMatch m))).length ∧
    chainStored (chainModify chain (flowExtractMatch m) priority false actions false).2 =
      (chainStored chain).map (fun flow =>
        if modifySelected (flowExtractMatch m) flow then flowReplaceActs flow actions else flow) ∧
    aggregateStatsDump chain ⟨m,0xff,outPort⟩ =
      some (feed aggregateStatsDumpCallback ⟨0,0,0⟩ (chain.tables.flatMap (statsSelected (flowExtractMatch m) outPort))) := by
  have placed := chainPlacedReachable reach
  obtain ⟨gone,left⟩ := tablesDeleteSelect m outPort priority chain.tables placed.tables
  obtain ⟨count,modified⟩ := tablesModifySelect m priority actions chain.tables placed.tables
  exact ⟨gone,left,rfl,count,modified,aggregateStatsSelect placed m outPort⟩

/- A table of the chain that holds one flow matching every packet, at priority 0x8000. -/
def wideMod : OfpFlowMod := flowModOf ofpfcAdd matchAll 0x8000

def wideChain : SwChain := run chainStep chainCreate [.flowMod wideMod 0]

def wideFlow : SwFlow := newFlow wideMod 0

theorem nonStrictSelectionWide :
    ChainReachable wideChain ∧
    ((chainDelete wideChain (flowExtractMatch matchAll) ofppNone 0 false false).1 =
      (chainStored wideChain).filter (deleteSelected (flowExtractMatch matchAll) ofppNone) ∧
    chainStored (chainDelete wideChain (flowExtractMatch matchAll) ofppNone 0 false false).2 =
      (chainStored wideChain).filter (fun flow => !deleteSelected (flowExtractMatch matchAll) ofppNone flow) ∧
    (chainDelete wideChain (flowExtractMatch matchAll) ofppNone 0 false false).2.emergTable = wideChain.emergTable ∧
    (chainModify wideChain (flowExtractMatch matchAll) 0 false [] false).1 =
      ((chainStored wideChain).filter (modifySelected (flowExtractMatch matchAll))).length ∧
    chainStored (chainModify wideChain (flowExtractMatch matchAll) 0 false [] false).2 =
      (chainStored wideChain).map (fun flow =>
        if modifySelected (flowExtractMatch matchAll) flow then flowReplaceActs flow [] else flow) ∧
    aggregateStatsDump wideChain ⟨matchAll,0xff,ofppNone⟩ =
      some (feed aggregateStatsDumpCallback ⟨0,0,0⟩
        (wideChain.tables.flatMap (statsSelected (flowExtractMatch matchAll) ofppNone)))) :=
  have reach : ChainReachable wideChain := reachableRun chainStep chainCreate _
  ⟨reach,nonStrictSelection reach matchAll ofppNone 0 []⟩

/- The reading of a description the OpenFlow 1.0 specification gives: `f` is equal to or more specific than
`d` when every exact key `f` matches, `d` matches too. -/
def Covers (d : SwFlowKey) (f : SwFlow) : Prop :=
  ∀ key : SwFlowKey, key.wildcards = 0 → Matches key f → flowMatches1wild key d = true

/- "Every flow whose in_port is 0", and the specification's own example, "all flows with a destination port of
80" (of TCP over IP). -/
def inPortZero : OfpMatch := { matchAll with wildcards := ofpfwAll &&& ~~~ofpfwInPort }

def tcpPort80 : OfpMatch :=
  { matchAll with
    wildcards := ofpfwAll &&& ~~~(ofpfwDlType ||| ofpfwNwProto ||| ofpfwTpDst)
    dlType := ethTypeIp
    nwProto := ipTypeTcp
    tpDst := 80 }

/- The key of a frame received on port 1. -/
def portOneKey : SwFlowKey := ⟨{ (flowExtractMatch matchAll).flow with inPort := 1 },0,0,0⟩

theorem emptyContents (is : List Nat) : contents is (fun _ => (none : Option SwFlow)) = [] := by
  simp [contents]

theorem wideChainAdded : wideChain = (insertOrFull chainCreate wideFlow false).chain := by
  have add : wideMod.command = ofpfcAdd := rfl
  have valid : validateActions (newFlow wideMod 0).key wideMod.actions wideMod.actions.length = actValidationOk :=
    validateActionsEmpty _ _
  have noFlags : ∀ flag, flagSet wideMod flag = false := fun flag => by simp [flagSet,wideMod,flowModOf]
  simp only [wideChain,runCons,runNil,chainStep,recvFlow,addFlow,add,if_true,valid,ne_eq,not_true_eq_false,
    if_false,noFlags]
  rfl

theorem wideChainStored : chainStored wideChain = [wideFlow] ∧
    wideChain.tables.flatMap (statsSelected (flowExtractMatch tcpPort80) ofppNone) = [wideFlow] := by
  have tables : wideChain.tables =
      [.hash2 (tableHash2Create 0x1EDC6F41 tableHashMaxFlows 0x741B8CD7 tableHashMaxFlows),
       .linear ⟨tableLinearMaxFlows,1,[wideFlow],[0],1⟩] := by
    rw [wideChainAdded]
    rfl
  constructor
  · rw [chainStored,tables]
    simp only [List.flatMap_cons,List.flatMap_nil,tableStored,tableHashStored,tableHash2Create,tableHashCreate,
      emptyContents,List.nil_append,List.append_nil]
  · rw [tables]
    simp only [List.flatMap_cons,List.flatMap_nil,statsSelected,tableStored,tableHashStored,tableHash2Create,
      tableHashCreate,emptyContents,List.nil_append,List.append_nil,List.filter_nil]
    decide

theorem nonStrictSelectsWiderFlows :
    ChainReachable wideChain ∧
    (chainDelete wideChain (flowExtractMatch inPortZero) ofppNone 0 false false).1 = [wideFlow] ∧
    ¬ Covers (flowExtractMatch inPortZero) wideFlow ∧
    (aggregateStatsDump wideChain ⟨tcpPort80,0xff,ofppNone⟩).map (·.flowCount) = some 1 ∧
    ¬ Covers (flowExtractMatch tcpPort80) wideFlow := by
  have reach : ChainReachable wideChain := reachableRun chainStep chainCreate _
  have placed := chainPlacedReachable reach
  obtain ⟨stored,counted⟩ := wideChainStored
  have wider : ∀ m, flowMatches1wild portOneKey (flowExtractMatch m) = false → ¬ Covers (flowExtractMatch m) wideFlow :=
    fun m miss covers => absurd (covers portOneKey rfl (by decide)) (by simp [miss])
  refine ⟨reach,?_,wider inPortZero (by decide),?_,wider tcpPort80 (by decide)⟩
  · show ((wideChain.tables.map fun t => t.delete (flowExtractMatch inPortZero) ofppNone 0 false).map Prod.fst).flatten = _
    rw [(tablesDeleteSelect inPortZero ofppNone 0 wideChain.tables placed.tables).1]
    change (chainStored wideChain).filter _ = _
    rw [stored]
    decide
  · rw [aggregateStatsSelect placed tcpPort80 ofppNone,counted]
    rfl

end OpenFlow.Select
