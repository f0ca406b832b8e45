import OpenFlow.Chain

/-! Iteration over the flows of a table (the `iterate` member of struct sw_table) and the aggregate flow
statistics of udatapath/datapath.c built on it. -/
namespace OpenFlow.Iterate
open TableHash TableLinear Chain

/- struct sw_table_position: four unsigned longs, of which the tables use two. -/
structure SwTablePosition where
  private0 : UInt64
  private1 : UInt64
  deriving DecidableEq, Repr

def SwTablePosition.start : SwTablePosition := ⟨0,0⟩

/- A callback returns its new state and whether it stops the iteration (a nonzero return). -/
abbrev Callback (σ : Type) := σ → SwFlow → σ × Bool

/- What iterate leaves: whether the callback stopped it, the position, and the callback's state. -/
structure Iteration (σ : Type) where
  stopped : Bool
  position : SwTablePosition
  state : σ

section
variable {σ : Type} (cb : Callback σ)

/- The loop `for (i = position->private[0]; i <= th->bucket_mask; i++)`. -/
def hashIterateLoop (th : SwTableHash) (key : SwFlowKey) (outPort : UInt16) :
    List Nat → SwTablePosition → σ → Iteration σ
  | [], pos, st => ⟨false,pos,st⟩
  | i :: is, pos, st =>
    match th.buckets i with
    | some flow =>
      if flowMatches1wild flow.key key && flowHasOutPort flow outPort then
        match cb st flow with
        | (st,true) => ⟨true,{ pos with private0 := (i + 1).toUInt64 },st⟩
        | (st,false) => hashIterateLoop th key outPort is pos st
      else hashIterateLoop th key outPort is pos st
    | none => hashIterateLoop th key outPort is pos st

def tableHashIterate (th : SwTableHash) (key : SwFlowKey) (outPort : UInt16) (pos : SwTablePosition)
    (st : σ) : Iteration σ :=
  if pos.private0.toNat > th.bucketMask.toNat then ⟨false,pos,st⟩
  else if key.wildcards = 0 then
    let pos := { pos with private0 := -1 }
    match tableHashLookup th key with
    | some flow =>
      if flowHasOutPort flow outPort then
        let (st,stop) := cb st flow
        ⟨stop,pos,st⟩
      else ⟨false,pos,st⟩
    | none => ⟨false,pos,st⟩
  else
    hashIterateLoop cb th key outPort (List.range' pos.private0.toNat (th.bucketMask.toNat + 1 - pos.private0.toNat))
      pos st

/- The loop `for (i = position->private[1]; i < 2; i++)` over the subtables. -/
def hash2IterateLoop (key : SwFlowKey) (outPort : UInt16) : List SwTableHash → SwTablePosition → σ → Iteration σ
  | [], pos, st => ⟨false,pos,st⟩
  | sub :: subs, pos, st =>
    let r := tableHashIterate cb sub key outPort pos st
    if r.stopped then r
    else hash2IterateLoop key outPort subs { r.position with private0 := 0,private1 := r.position.private1 + 1 } r.state

def tableHash2Iterate (t2 : SwTableHash2) (key : SwFlowKey) (outPort : UInt16) (pos : SwTablePosition)
    (st : σ) : Iteration σ :=
  hash2IterateLoop cb key outPort ([t2.subtable0,t2.subtable1].drop pos.private1.toNat) pos st

/- The walk of `iter_flows`, newest entry first. -/
def linearIterateLoop (tl : SwTableLinear) (key : SwFlowKey) (outPort : UInt16) (start : UInt64) :
    List Nat → SwTablePosition → σ → Iteration σ
  | [], pos, st => ⟨false,pos,st⟩
  | serial :: serials, pos, st =>
    match tl.flows.find? (·.serial == serial) with
    | some flow =>
      if flow.serial.toUInt64 ≤ start && flowMatches2wild key flow.key && flowHasOutPort flow outPort then
        match cb st flow with
        | (st,true) => ⟨true,{ pos with private0 := ~~~(flow.serial.toUInt64 - 1) },st⟩
        | (st,false) => linearIterateLoop tl key outPort start serials pos st
      else linearIterateLoop tl key outPort start serials pos st
    | none => linearIterateLoop tl key outPort start serials pos st

def tableLinearIterate (tl : SwTableLinear) (key : SwFlowKey) (outPort : UInt16) (pos : SwTablePosition)
    (st : σ) : Iteration σ :=
  linearIterateLoop cb tl key outPort (~~~pos.private0) tl.iterFlows pos st

section Empty
variable {th : SwTableHash} (empty : ∀ i, th.buckets i = none) (key : SwFlowKey) (outPort : UInt16)
include empty

theorem hashIterateLoopEmpty : ∀ (is : List Nat) (pos : SwTablePosition) (st : σ),
    hashIterateLoop cb th key outPort is pos st = ⟨false,pos,st⟩
  | [], _, _ => rfl
  | i :: is, pos, st => by
    rw [hashIterateLoop,empty i]
    exact hashIterateLoopEmpty is pos st

theorem tableHashIterateEmpty (pos : SwTablePosition) (st : σ) :
    (tableHashIterate cb th key outPort pos st).stopped = false ∧ (tableHashIterate cb th key outPort pos st).state = st := by
  have missed : tableHashLookup th key = none := by simp [tableHashLookup,empty]
  unfold tableHashIterate
  split
  · exact ⟨rfl,rfl⟩
  · split
    · simp [missed]
    · rw [hashIterateLoopEmpty cb empty]
      exact ⟨rfl,rfl⟩

end Empty

theorem hash2IterateLoopEmpty (key : SwFlowKey) (outPort : UInt16) :
    ∀ (subs : List SwTableHash), (∀ sub ∈ subs, ∀ i, sub.buckets i = none) → ∀ (pos : SwTablePosition) (st : σ),
      (hash2IterateLoop cb key outPort subs pos st).stopped = false ∧ (hash2IterateLoop cb key outPort subs pos st).state = st
  | [], _, _, _ => ⟨rfl,rfl⟩
  | sub :: subs, empty, pos, st => by
    obtain ⟨passed,same⟩ := tableHashIterateEmpty cb (empty sub List.mem_cons_self) key outPort pos st
    rw [hash2IterateLoop]
    simp only [passed,Bool.false_eq_true,if_false,same]
    exact hash2IterateLoopEmpty key outPort subs (fun sub' mem => empty sub' (List.mem_cons_of_mem _ mem)) _ st

/- table->iterate, through the table's own implementation. -/
def tableIterate (t : SwTable) (key : SwFlowKey) (outPort : UInt16) (pos : SwTablePosition) (st : σ) :
    Iteration σ :=
  match t with
  | .hash th => tableHashIterate cb th key outPort pos st
  | .hash2 t2 => tableHash2Iterate cb t2 key outPort pos st
  | .linear tl => tableLinearIterate cb tl key outPort pos st

end

def emergTableIdForStats : UInt8 := 0xfe

/- struct ofp_aggregate_stats_request -/
structure OfpAggregateStatsRequest where
  ofpMatch : OfpMatch
  tableId : UInt8
  outPort : UInt16

/- struct ofp_aggregate_stats_reply, in host byte order. -/
structure OfpAggregateStatsReply where
  packetCount : UInt64
  byteCount : UInt64
  flowCount : UInt32
  deriving DecidableEq, Repr

def aggregateStatsDumpCallback : Callback OfpAggregateStatsReply := fun rpy flow =>
  ({ packetCount := rpy.packetCount + flow.packetCount,byteCount := rpy.byteCount + flow.byteCount,
     flowCount := rpy.flowCount + 1 },false)

/- The loop `while (table_idx < n_tables && (table_id == 0xff || table_id == table_idx))`, each table iterated
from its start. -/
def aggregateTablesLoop (tableId : UInt8) (key : SwFlowKey) (outPort : UInt16) :
    Nat → List SwTable → OfpAggregateStatsReply → Option OfpAggregateStatsReply
  | _, [], rpy => some rpy
  | idx, t :: ts, rpy =>
    if tableId = 0xff ∨ tableId.toNat = idx then
      let r := tableIterate aggregateStatsDumpCallback t key outPort .start rpy
      if r.stopped then none else aggregateTablesLoop tableId key outPort (idx + 1) ts r.state
    else some rpy

def aggregateStatsDump (chain : SwChain) (rq : OfpAggregateStatsRequest) : Option OfpAggregateStatsReply :=
  let key := flowExtractMatch rq.ofpMatch
  if rq.tableId = emergTableIdForStats then
    let r := tableIterate aggregateStatsDumpCallback chain.emergTable key rq.outPort .start ⟨0,0,0⟩
    if r.stopped then none else some r.state
  else
    let tableIdx := if rq.tableId = 0xff then 0 else rq.tableId.toNat
    aggregateTablesLoop rq.tableId key rq.outPort tableIdx (chain.tables.drop tableIdx) ⟨0,0,0⟩

end OpenFlow.Iterate
