import OpenFlow.Select
import OpenFlow.Lib.Wildcards

/-! The overlap check of add_flow under OFPFF_CHECK_OVERLAP: chain_has_conflict with `strict` unset. -/
namespace OpenFlow.Conflict
open Slots Store TableHash TableLinear Chain FlowMod ChainRules Select StepSystem Wildcards

/- Some exact key matches both. -/
def Overlaps (a b : SwFlowKey) : Prop :=
  ∃ k : SwFlowKey, ExactKey k ∧ flowMatches1wild k a = true ∧ flowMatches1wild k b = true

/- The exact key two agreeing keys share: each field of `a`, or of `b` where `a` wildcards it, and the address
bits `a` ignores from `b`. -/
def meetKey (a b : SwFlowKey) : SwFlowKey where
  flow :=
    { inPort := if wild a.wildcards ofpfwInPort then b.flow.inPort else a.flow.inPort
      dlVlan := if wild a.wildcards ofpfwDlVlan then b.flow.dlVlan else a.flow.dlVlan
      dlVlanPcp := if wild a.wildcards ofpfwDlVlanPcp then b.flow.dlVlanPcp else a.flow.dlVlanPcp
      dlSrc := if wild a.wildcards ofpfwDlSrc then b.flow.dlSrc else a.flow.dlSrc
      dlDst := if wild a.wildcards ofpfwDlDst then b.flow.dlDst else a.flow.dlDst
      dlType := if wild a.wildcards ofpfwDlType then b.flow.dlType else a.flow.dlType
      nwTos := if wild a.wildcards ofpfwNwTos then b.flow.nwTos else a.flow.nwTos
      nwProto := if wild a.wildcards ofpfwNwProto then b.flow.nwProto else a.flow.nwProto
      nwSrc := a.flow.nwSrc &&& a.nwSrcMask ||| b.flow.nwSrc &&& ~~~a.nwSrcMask
      nwDst := a.flow.nwDst &&& a.nwDstMask ||| b.flow.nwDst &&& ~~~a.nwDstMask
      tpSrc := if wild a.wildcards ofpfwTpSrc then b.flow.tpSrc else a.flow.tpSrc
      tpDst := if wild a.wildcards ofpfwTpDst then b.flow.tpDst else a.flow.tpDst
      pad := a.flow.pad }
  wildcards := 0
  nwSrcMask := ~~~0
  nwDstMask := ~~~0

section Keys
variable {a b : SwFlowKey}

theorem meetMatches (agree : flowMatches2wild a b = true) :
    flowMatches1wild (meetKey a b) a = true ∧ flowMatches1wild (meetKey a b) b = true := by
  simp only [flowMatches2wild,flowFieldsMatch,wildOr,Bool.and_eq_true,and_assoc] at agree
  obtain ⟨inPort,vlan,pcp,src,dst,type,tos,proto,nwSrc,nwDst,tpSrc,tpDst⟩ := agree
  obtain ⟨nwSrcA,nwSrcB⟩ := maskedMeet (beq_iff_eq.mp nwSrc)
  obtain ⟨nwDstA,nwDstB⟩ := maskedMeet (beq_iff_eq.mp nwDst)
  constructor
  · simp only [flowMatches1wild,flowFieldsMatch,Bool.and_eq_true,and_assoc]
    exact ⟨(fieldMeet inPort).1,(fieldMeet vlan).1,(fieldMeet pcp).1,(fieldMeet src).1,(fieldMeet dst).1,
      (fieldMeet type).1,(fieldMeet tos).1,(fieldMeet proto).1,beq_iff_eq.mpr nwSrcA,beq_iff_eq.mpr nwDstA,
      (fieldMeet tpSrc).1,(fieldMeet tpDst).1⟩
  · simp only [flowMatches1wild,flowFieldsMatch,Bool.and_eq_true,and_assoc]
    exact ⟨(fieldMeet inPort).2,(fieldMeet vlan).2,(fieldMeet pcp).2,(fieldMeet src).2,(fieldMeet dst).2,
      (fieldMeet type).2,(fieldMeet tos).2,(fieldMeet proto).2,beq_iff_eq.mpr nwSrcB,beq_iff_eq.mpr nwDstB,
      (fieldMeet tpSrc).2,(fieldMeet tpDst).2⟩

theorem agreeOfMatches {k : SwFlowKey} (inA : flowMatches1wild k a = true) (inB : flowMatches1wild k b = true) :
    flowMatches2wild a b = true := by
  simp only [flowMatches1wild,flowFieldsMatch,Bool.and_eq_true,and_assoc] at inA inB
  obtain ⟨inPortA,vlanA,pcpA,srcA,dstA,typeA,tosA,protoA,nwSrcA,nwDstA,tpSrcA,tpDstA⟩ := inA
  obtain ⟨inPortB,vlanB,pcpB,srcB,dstB,typeB,tosB,protoB,nwSrcB,nwDstB,tpSrcB,tpDstB⟩ := inB
  simp only [flowMatches2wild,flowFieldsMatch,wildOr,Bool.and_eq_true,and_assoc]
  exact ⟨fieldAgree inPortA inPortB,fieldAgree vlanA vlanB,fieldAgree pcpA pcpB,fieldAgree srcA srcB,
    fieldAgree dstA dstB,fieldAgree typeA typeB,fieldAgree tosA tosB,fieldAgree protoA protoB,
    beq_iff_eq.mpr (maskedAgree (beq_iff_eq.mp nwSrcA) (beq_iff_eq.mp nwSrcB)),
    beq_iff_eq.mpr (maskedAgree (beq_iff_eq.mp nwDstA) (beq_iff_eq.mp nwDstB)),
    fieldAgree tpSrcA tpSrcB,fieldAgree tpDstA tpDstB⟩

theorem flowMatches2wildOverlaps : flowMatches2wild a b = true ↔ Overlaps a b := by
  constructor
  · intro agree
    exact ⟨meetKey a b,⟨rfl,rfl,rfl⟩,meetMatches agree⟩
  · rintro ⟨k,-,inA,inB⟩
    exact agreeOfMatches inA inB

theorem overlapsComm : Overlaps a b ↔ Overlaps b a := by
  constructor <;>
  · rintro ⟨k,exact,inA,inB⟩
    exact ⟨k,exact,inB,inA⟩

theorem exactOverlapSame (exactA : ExactKey a) (exactB : ExactKey b) (pad : a.flow.pad = b.flow.pad)
    (agree : flowMatches2wild a b = true) : a.flow = b.flow := by
  obtain ⟨wildA,srcA,dstA⟩ := exactA
  obtain ⟨wildB,srcB,dstB⟩ := exactB
  have full : (~~~0 : UInt32) &&& ~~~0 = ~~~0 := UInt32.and_self
  rw [flowMatches2wild,wildA,wildB,srcA,srcB,dstA,dstB,UInt32.or_self,full] at agree
  exact (flowFieldsMatchExact pad).mp agree

end Keys

/- What chain_has_conflict looks for, with `strict` unset: a flow of the priority whose key overlaps. -/
def conflicting (key : SwFlowKey) (priority : UInt16) (flow : SwFlow) : Bool :=
  flowMatches2wild flow.key key && flow.priority == priority

theorem flowMatches2descLoose (t d : SwFlowKey) : flowMatches2desc t d false = flowMatches2wild t d := rfl

theorem linearConflictStored (tl : SwTableLinear) (key : SwFlowKey) (priority : UInt16) :
    tableLinearHasConflict tl key priority false = tl.flows.any (conflicting key priority) := by
  simp only [tableLinearHasConflict,flowMatches2descLoose]
  rfl

theorem hashConflictVisited (th : SwTableHash) (key : SwFlowKey) (priority : UInt16) :
    tableHashHasConflict th key priority false =
      (visited th key).any fun i => (th.buckets i).any (conflicting key priority) := by
  unfold tableHashHasConflict
  refine List.any_congr rfl fun i => ?_
  cases th.buckets i <;> rfl

section Hash
variable {th : SwTableHash} (placed : Placed th) (exact : HashKeys ExactKey th)
include placed exact

theorem exactConflictBucket (m : OfpMatch) (exactKey : (flowExtractMatch m).wildcards = 0) (priority : UInt16)
    {i : Nat} {flow : SwFlow} (slot : th.buckets i = some flow)
    (hit : conflicting (flowExtractMatch m) priority flow = true) :
    th.buckets (findBucket th (flowExtractMatch m)) = some flow := by
  obtain ⟨here,pad⟩ := placed i flow slot
  have keyExact : ExactKey (flowExtractMatch m) := ⟨exactKey,flowExtractMatchMasks m exactKey⟩
  have agree : flowMatches2wild flow.key (flowExtractMatch m) = true := (Bool.and_eq_true _ _ ▸ hit).1
  have same := exactOverlapSame (exact i flow slot) keyExact pad agree
  rw [← findBucketOfFlow th same,← here]
  exact slot

theorem hashConflictStored (m : OfpMatch) (priority : UInt16) :
    tableHashHasConflict th (flowExtractMatch m) priority false =
      (tableHashStored th).any (conflicting (flowExtractMatch m) priority) := by
  rw [hashConflictVisited]
  unfold visited
  split
  · -- an exact key: the one bucket it hashes to holds every conflicting flow
    rename_i exactKey
    rw [Bool.eq_iff_iff,List.any_cons,List.any_nil,Bool.or_false,List.any_eq_true,Option.any_eq_true]
    constructor
    · rintro ⟨flow,slot,conflict⟩
      exact ⟨flow,List.mem_filterMap.mpr ⟨_,findBucketMem th _,slot⟩,conflict⟩
    · rintro ⟨flow,mem,conflict⟩
      obtain ⟨i,-,slot⟩ := List.mem_filterMap.mp mem
      exact ⟨flow,exactConflictBucket placed exact m exactKey priority slot conflict,conflict⟩
  · exact anyContents _ th.buckets (allBuckets th)

end Hash

theorem tableConflictStored {t : SwTable} (placed : TablePlaced t) (exact : TableKeys ExactKey t) (m : OfpMatch)
    (priority : UInt16) :
    t.hasConflict (flowExtractMatch m) priority false = (tableStored t).any (conflicting (flowExtractMatch m) priority) := by
  cases t with
  | hash th => exact hashConflictStored placed exact m priority
  | hash2 t2 =>
    simp only [SwTable.hasConflict,tableHash2HasConflict,tableStored,List.any_append,
      hashConflictStored placed.1 exact.1,hashConflictStored placed.2 exact.2]
  | linear tl => exact linearConflictStored tl _ priority

theorem chainConflictStored {chain : SwChain} (placed : ChainPlaced chain)
    (exact : ChainHolds (TableKeys ExactKey) chain) (m : OfpMatch) (priority : UInt16) :
    chainHasConflict chain (flowExtractMatch m) priority false =
      (chainStored chain).any (conflicting (flowExtractMatch m) priority) := by
  have each : ∀ t ∈ chain.tables, t.hasConflict (flowExtractMatch m) priority false =
      (tableStored t).any (conflicting (flowExtractMatch m) priority) :=
    fun t mem => tableConflictStored (placed.tables t mem) (exact.tables t mem) m priority
  rw [chainHasConflict,chainStored,List.any_flatMap,Bool.eq_iff_iff,List.any_eq_true,List.any_eq_true]
  constructor
  · rintro ⟨t,mem,hit⟩
    exact ⟨t,mem,each t mem ▸ hit⟩
  · rintro ⟨t,mem,hit⟩
    exact ⟨t,mem,(each t mem).symm ▸ hit⟩

/- The overlap check over a chain flow-mods and timeouts can build, for a key flow_extract_match gives: it
finds a stored flow of the priority whose key overlaps, and the addresses of two keys are compared under the
shorter of their two prefixes. -/
theorem chainHasConflictOverlaps {chain : SwChain} (reach : ChainReachable chain) (m : OfpMatch) (priority : UInt16) :
    (chainHasConflict chain (flowExtractMatch m) priority false = true ↔
      ∃ flow ∈ chainStored chain, flow.priority = priority ∧ Overlaps (flowExtractMatch m) flow.key) ∧
    ∀ x y : UInt32, makeNwMask x &&& makeNwMask y = if (x &&& 63) ≤ (y &&& 63) then makeNwMask y else makeNwMask x := by
  refine ⟨?_,makeNwMaskAnd⟩
  rw [chainConflictStored (chainPlacedReachable reach) (chainExactReachable reach) m priority,List.any_eq_true]
  simp only [conflicting,Bool.and_eq_true,beq_iff_eq,flowMatches2wildOverlaps]
  constructor
  · rintro ⟨flow,mem,overlap,same⟩
    exact ⟨flow,mem,same,overlapsComm.mp overlap⟩
  · rintro ⟨flow,mem,same,overlap⟩
    exact ⟨flow,mem,overlapsComm.mp overlap,same⟩

/- The chain holding one all-wildcard flow at priority 0x8000: an add of the same match at that priority
overlaps it. -/
theorem wideChainConflict :
    ChainReachable wideChain ∧
    ((chainHasConflict wideChain (flowExtractMatch matchAll) 0x8000 false = true ↔
      ∃ flow ∈ chainStored wideChain, flow.priority = 0x8000 ∧ Overlaps (flowExtractMatch matchAll) flow.key) ∧
    ∀ x y : UInt32, makeNwMask x &&& makeNwMask y = if (x &&& 63) ≤ (y &&& 63) then makeNwMask y else makeNwMask x) :=
  have reach : ChainReachable wideChain := reachableRun chainStep chainCreate _
  ⟨reach,chainHasConflictOverlaps reach matchAll 0x8000⟩

end OpenFlow.Conflict
