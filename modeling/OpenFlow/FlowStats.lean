import OpenFlow.Select

/-! Flow statistics (OFPST_FLOW) in udatapath/datapath.c: fill_flow_stats writes one entry per flow,
flow_stats_dump_callback stops the table's iterate once the reply holds MAX_FLOW_STATS_BYTES, and stats_dump
calls flow_stats_dump again, with a new reply, until it returns 0. -/
namespace OpenFlow.FlowStats
open Actions TableHash TableLinear Chain Iterate FlowMod ChainRules Select StepSystem

/- struct ofp_flow_stats_request -/
structure OfpFlowStatsRequest where
  ofpMatch : OfpMatch
  tableId : UInt8
  outPort : UInt16

/- struct ofp_flow_stats in host byte order, with the entry's action bytes; its two pads are written as zeros
and read by no modelled function. -/
structure OfpFlowStats where
  length : UInt16
  tableId : UInt8
  ofpMatch : OfpMatch
  durationSec : UInt32
  durationNsec : UInt32
  priority : UInt16
  idleTimeout : UInt16
  hardTimeout : UInt16
  cookie : UInt64
  packetCount : UInt64
  byteCount : UInt64
  actions : List UInt8

/- sizeof(struct ofp_flow_stats), MAX_FLOW_STATS_BYTES and sizeof(struct ofp_stats_reply). -/
def ofpFlowStatsLen : Nat := 88
def maxFlowStatsBytes : Nat := 4096
def ofpStatsReplyLen : Nat := 12

/- fill_flow_stats: `sec` is a uint32_t, so `sec * 1000` is computed in 32 bits. -/
def fillFlowStats (flow : SwFlow) (tableIdx : Nat) (now : UInt64) : OfpFlowStats :=
  let tdiff := now - flow.created
  let sec : UInt32 := (tdiff / 1000).toUInt32
  { length := (ofpFlowStatsLen + flow.actions.length).toUInt16
    tableId := tableIdx.toUInt8
    ofpMatch :=
      { wildcards := flow.key.wildcards,inPort := flow.key.flow.inPort,dlSrc := flow.key.flow.dlSrc,
        dlDst := flow.key.flow.dlDst,dlVlan := flow.key.flow.dlVlan,dlType := flow.key.flow.dlType,
        nwTos := flow.key.flow.nwTos,nwSrc := flow.key.flow.nwSrc,nwDst := flow.key.flow.nwDst,
        nwProto := flow.key.flow.nwProto,dlVlanPcp := flow.key.flow.dlVlanPcp,tpSrc := flow.key.flow.tpSrc,
        tpDst := flow.key.flow.tpDst }
    durationSec := sec
    durationNsec := ((tdiff - (sec * 1000).toUInt64) * 1000000).toUInt32
    priority := flow.priority
    idleTimeout := flow.idleTimeout
    hardTimeout := flow.hardTimeout
    cookie := flow.cookie
    packetCount := flow.packetCount
    byteCount := flow.byteCount
    actions := flow.actions }

/- The reply a call fills: its size in bytes, the ofp_stats_reply header included, and the entries appended to
it. -/
structure StatsReply where
  size : Nat
  entries : List OfpFlowStats

/- flow_stats_dump_callback: a nonzero return stops the iteration. -/
def flowStatsDumpCallback (tableIdx : Nat) (now : UInt64) : Callback StatsReply := fun buffer flow =>
  let buffer := ⟨buffer.size + (ofpFlowStatsLen + flow.actions.length),
    buffer.entries ++ [fillFlowStats flow tableIdx now]⟩
  (buffer,decide (maxFlowStatsBytes ≤ buffer.size))

/- struct flow_stats_state, without the buffer and the time each call sets. -/
structure FlowStatsState where
  tableIdx : Nat
  position : SwTablePosition
  rq : OfpFlowStatsRequest

def flowStatsInit (rq : OfpFlowStatsRequest) : FlowStatsState :=
  ⟨if rq.tableId = 0xff then 0 else rq.tableId.toNat,.start,rq⟩

/- The loop `while (s->table_idx < n_tables && (table_id == 0xff || table_id == s->table_idx))` over the
tables from `s->table_idx` on. -/
def flowStatsTablesLoop (key : SwFlowKey) (now : UInt64) :
    List SwTable → FlowStatsState → StatsReply → FlowStatsState × StatsReply
  | [], s, buffer => (s,buffer)
  | t :: ts, s, buffer =>
    if s.rq.tableId = 0xff ∨ s.rq.tableId.toNat = s.tableIdx then
      let r := tableIterate (flowStatsDumpCallback s.tableIdx now) t key s.rq.outPort s.position buffer
      if r.stopped then ({ s with position := r.position },r.state)
      else flowStatsTablesLoop key now ts { s with tableIdx := s.tableIdx + 1,position := .start } r.state
    else (s,buffer)

/- flow_stats_dump on the chain as it is at time `now`; the flag is its return value, nonzero when the reply
is full. -/
def flowStatsDump (chain : SwChain) (now : UInt64) (s : FlowStatsState) (buffer : StatsReply) :
    FlowStatsState × StatsReply × Bool :=
  let key := flowExtractMatch s.rq.ofpMatch
  let (s,buffer) :=
    if s.rq.tableId = emergTableIdForStats then
      let r := tableIterate (flowStatsDumpCallback s.tableIdx now) chain.emergTable key s.rq.outPort s.position buffer
      ({ s with position := r.position },r.state)
    else flowStatsTablesLoop key now (chain.tables.drop s.tableIdx) s buffer
  (s,buffer,decide (maxFlowStatsBytes ≤ buffer.size))

/- The replies of stats_dump, one per call of flow_stats_dump, each flagged OFPSF_REPLY_MORE when the call
returned nonzero; the dump ends after a call that returned 0. -/
def flowStatsReplies : List (SwChain × UInt64) → FlowStatsState → List (StatsReply × Bool)
  | [], _ => []
  | (chain,now) :: calls, s =>
    let (s,reply,more) := flowStatsDump chain now s ⟨ofpStatsReplyLen,[]⟩
    (reply,more) :: if more then flowStatsReplies calls s else []

theorem tablesLoopPass {key : SwFlowKey} {now : UInt64} {t : SwTable} (ts : List SwTable) {s : FlowStatsState}
    {buffer : StatsReply} (selected : s.rq.tableId = 0xff ∨ s.rq.tableId.toNat = s.tableIdx)
    (pass : (tableIterate (flowStatsDumpCallback s.tableIdx now) t key s.rq.outPort s.position buffer).stopped = false) :
    flowStatsTablesLoop key now (t :: ts) s buffer =
      flowStatsTablesLoop key now ts { s with tableIdx := s.tableIdx + 1,position := .start }
        (tableIterate (flowStatsDumpCallback s.tableIdx now) t key s.rq.outPort s.position buffer).state := by
  rw [flowStatsTablesLoop,if_pos selected]
  simp only [pass,Bool.false_eq_true,if_false]

theorem tablesLoopStop {key : SwFlowKey} {now : UInt64} {t : SwTable} (ts : List SwTable) {s : FlowStatsState}
    {buffer : StatsReply} {r : Iteration StatsReply} (selected : s.rq.tableId = 0xff ∨ s.rq.tableId.toNat = s.tableIdx)
    (iterate : tableIterate (flowStatsDumpCallback s.tableIdx now) t key s.rq.outPort s.position buffer = r)
    (stop : r.stopped = true) :
    flowStatsTablesLoop key now (t :: ts) s buffer = ({ s with position := r.position },r.state) := by
  rw [flowStatsTablesLoop,if_pos selected]
  simp only [iterate,stop,if_true]

theorem flowStatsDumpTables {chain : SwChain} {now : UInt64} {s : FlowStatsState} {buffer : StatsReply}
    (notEmerg : s.rq.tableId ≠ emergTableIdForStats) {s' : FlowStatsState} {reply : StatsReply}
    (loop : flowStatsTablesLoop (flowExtractMatch s.rq.ofpMatch) now (chain.tables.drop s.tableIdx) s buffer = (s',reply)) :
    flowStatsDump chain now s buffer = (s',reply,decide (maxFlowStatsBytes ≤ reply.size)) := by
  unfold flowStatsDump
  simp only [if_neg notEmerg,loop]

theorem repliesRepeat {chain : SwChain} {now : UInt64} {s : FlowStatsState} {reply : StatsReply}
    (again : flowStatsDump chain now s ⟨ofpStatsReplyLen,[]⟩ = (s,reply,true)) :
    ∀ n, flowStatsReplies (List.replicate n (chain,now)) s = List.replicate n (reply,true)
  | 0 => rfl
  | n + 1 => by
    rw [List.replicate_succ,flowStatsReplies,again]
    dsimp only
    rw [if_pos rfl,repliesRepeat again n,List.replicate_succ]

theorem fillFlowStatsMatch (flow : SwFlow) (tableIdx : Nat) (now : UInt64) :
    (fillFlowStats flow tableIdx now).ofpMatch = flowFillMatch flow.key.flow flow.key.wildcards := rfl

/- A match the switch reports for an entry, in OFPT_FLOW_REMOVED or in flow statistics, normalizes back to the
entry's key. -/
theorem matchReencodes (m : OfpMatch) :
    flowExtractMatch (flowFillMatch (flowExtractMatch m).flow (flowExtractMatch m).wildcards) = flowExtractMatch m ∧
    ∀ (flow : SwFlow) (tableIdx : Nat) (now : UInt64), flow.key = flowExtractMatch m →
      flowExtractMatch (fillFlowStats flow tableIdx now).ofpMatch = flowExtractMatch m := by
  refine ⟨flowExtractMatchFill m,?_⟩
  intro flow tableIdx now key
  rw [fillFlowStatsMatch,key]
  exact flowExtractMatchFill m

theorem wideFlowReencodes :
    wideFlow.key = flowExtractMatch matchAll ∧
    flowExtractMatch (fillFlowStats wideFlow 1 0).ofpMatch = flowExtractMatch matchAll :=
  ⟨rfl,(matchReencodes matchAll).2 wideFlow 1 0 rfl⟩

/- struct ofp_flow_removed in host byte order; its pads are written by no modelled path. -/
structure OfpFlowRemoved where
  ofpMatch : OfpMatch
  cookie : UInt64
  priority : UInt16
  reason : UInt8
  durationSec : UInt32
  durationNsec : UInt32
  idleTimeout : UInt16
  packetCount : UInt64
  byteCount : UInt64

/- dp_send_flow_end at time_msec() = `now`: the message it sends, none for a flow without OFPFF_SEND_FLOW_REM
or for an emergency flow. -/
def dpSendFlowEnd (flow : SwFlow) (reason : UInt8) (now : UInt64) : Option OfpFlowRemoved :=
  let tdiff := now - flow.created
  let sec : UInt32 := (tdiff / 1000).toUInt32
  if flow.sendFlowRem = 0 then none
  else if flow.emergFlow ≠ 0 then none
  else some
    { ofpMatch := flowFillMatch flow.key.flow flow.key.wildcards
      cookie := flow.cookie
      priority := flow.priority
      reason
      durationSec := sec
      durationNsec := ((tdiff - (sec * 1000).toUInt64) * 1000000).toUInt32
      idleTimeout := flow.idleTimeout
      packetCount := flow.packetCount
      byteCount := flow.byteCount }

theorem durationNsecNat {t : Nat} (young : t < 2 ^ 32 * 1000) :
    (t - t / 1000 * 1000 % 2 ^ 32) * 1000000 % 2 ^ 64 % 2 ^ 32 = t % 1000 * 1000000 := by
  omega

theorem durationWords {tdiff : UInt64} (young : tdiff.toNat < 2 ^ 32 * 1000) :
    ((tdiff / 1000).toUInt32).toNat = tdiff.toNat / 1000 ∧
      ((tdiff - ((tdiff / 1000).toUInt32 * 1000).toUInt64) * 1000000).toUInt32.toNat = tdiff.toNat % 1000 * 1000000 := by
  have secNat : ((tdiff / 1000).toUInt32).toNat = tdiff.toNat / 1000 := by
    simp only [UInt64.toNat_toUInt32,UInt64.toNat_div,UInt64.reduceToNat]
    omega
  have wrapped : ((tdiff / 1000).toUInt32 * 1000).toUInt64.toNat = tdiff.toNat / 1000 * 1000 % 2 ^ 32 := by
    simp
  have below : ((tdiff / 1000).toUInt32 * 1000).toUInt64 ≤ tdiff := by
    rw [UInt64.le_iff_toNat_le,wrapped]
    omega
  refine ⟨secNat,?_⟩
  simp only [UInt64.toNat_toUInt32,UInt64.toNat_mul,UInt64.toNat_sub_of_le _ _ below,wrapped]
  simpa using durationNsecNat young

/- For a flow younger than 2^32 s, flow statistics and flow-removed messages report its age exactly, with the
nanoseconds below 10^9, and the same age. -/
theorem flowDurationsExact (flow : SwFlow) (tableIdx : Nat) (now : UInt64) (reason : UInt8)
    (young : (now - flow.created).toNat < 2 ^ 32 * 1000) :
    (fillFlowStats flow tableIdx now).durationSec.toNat * 10 ^ 9 + (fillFlowStats flow tableIdx now).durationNsec.toNat =
        (now - flow.created).toNat * 10 ^ 6 ∧
      (fillFlowStats flow tableIdx now).durationNsec.toNat < 10 ^ 9 ∧
      ∀ m, dpSendFlowEnd flow reason now = some m →
        m.durationSec = (fillFlowStats flow tableIdx now).durationSec ∧
          m.durationNsec = (fillFlowStats flow tableIdx now).durationNsec := by
  obtain ⟨secNat,nsecNat⟩ := durationWords young
  refine ⟨?_,?_,fun m sent => ?_⟩
  · simp only [fillFlowStats,secNat,nsecNat]
    omega
  · simp only [fillFlowStats,nsecNat]
    omega
  · unfold dpSendFlowEnd at sent
    split_ifs at sent
    cases sent
    exact ⟨rfl,rfl⟩

/- A flow asking for flow-removed messages, removed 2^32 + 5 ms after it was added, an age a 32-bit count of
milliseconds would wrap. -/
def oldFlow : SwFlow := { wideFlow with sendFlowRem := 1 }

theorem oldFlowAge :
    (4294967301 - oldFlow.created).toNat < 2 ^ 32 * 1000 ∧
      (dpSendFlowEnd oldFlow 0 4294967301).map (fun m => (m.durationSec,m.durationNsec)) = some (4294967,301000000) ∧
      (fillFlowStats oldFlow 0 4294967301).durationSec.toNat * 10 ^ 9 +
          (fillFlowStats oldFlow 0 4294967301).durationNsec.toNat = (4294967301 - oldFlow.created).toNat * 10 ^ 6 ∧
      ∀ m, dpSendFlowEnd oldFlow 0 4294967301 = some m →
        m.durationSec = (fillFlowStats oldFlow 0 4294967301).durationSec ∧
          m.durationNsec = (fillFlowStats oldFlow 0 4294967301).durationNsec := by
  have young : (4294967301 - oldFlow.created).toNat < 2 ^ 32 * 1000 := by decide
  have exact := flowDurationsExact oldFlow 0 4294967301 0 young
  exact ⟨young,by decide,exact.1,exact.2.2⟩

/- A wildcarded flow whose 500 output actions to port 1, 4000 bytes, fill a reply on their own. -/
def longMod : OfpFlowMod :=
  { flowModOf ofpfcAdd matchAll 0x8000 with actions := (List.replicate 500 (ofpActionOutput 1 0)).flatten }

def longChain : SwChain := run chainStep chainCreate [.flowMod longMod 0]

def longFlow : SwFlow := newFlow longMod 0

/- Statistics of every flow of every table. -/
def allFlows : OfpFlowStatsRequest := ⟨matchAll,0xff,ofppNone⟩

/- What every call of that dump returns: the long flow's entry. -/
def longReply : StatsReply := ⟨ofpStatsReplyLen + (ofpFlowStatsLen + 4000),[fillFlowStats longFlow 1 0]⟩

theorem longActionsLength : longMod.actions.length = 8 * 500 := by
  simp only [longMod,List.length_flatten,List.map_replicate,lengthOfpActionOutput,List.sum_replicate]
  rfl

theorem longFlowKey : longFlow.key = flowExtractMatch matchAll := rfl

theorem longChainAdded : longChain = (insertOrFull chainCreate longFlow false).chain := by
  have add : longMod.command = ofpfcAdd := rfl
  have valid : validateActions (newFlow longMod 0).key longMod.actions longMod.actions.length = actValidationOk := by
    have outputs := @validateOutputsFrom (flowExtractMatch matchAll) 1 (by decide) (by decide) 500 []
    rw [List.nil_append] at outputs
    rw [validateActions,longActionsLength,← longFlow,longFlowKey]
    exact outputs
  have flags : longMod.flags = 0 := rfl
  have noFlags : ∀ flag, flagSet longMod flag = false := fun flag => by simp [flagSet,flags]
  rw [longChain,runCons,runNil,chainStep,recvFlow,if_pos add,addFlow]
  rw [if_neg (not_not.mpr valid),noFlags,noFlags,Bool.false_and,Bool.false_and,if_neg Bool.false_ne_true,
    if_neg Bool.false_ne_true]
  rfl

theorem longChainTables :
    longChain.tables =
      [.hash2 (tableHash2Create 0x1EDC6F41 tableHashMaxFlows 0x741B8CD7 tableHashMaxFlows),
       .linear ⟨tableLinearMaxFlows,1,[longFlow],[0],1⟩] := by
  rw [longChainAdded]
  rfl

theorem hash2CreateIterate {σ : Type} (cb : Callback σ) (p0 n0 p1 n1 : UInt32) (key : SwFlowKey) (outPort : UInt16)
    (st : σ) :
    (tableIterate cb (.hash2 (tableHash2Create p0 n0 p1 n1)) key outPort .start st).stopped = false ∧
    (tableIterate cb (.hash2 (tableHash2Create p0 n0 p1 n1)) key outPort .start st).state = st := by
  have empty : ∀ sub ∈ [(tableHash2Create p0 n0 p1 n1).subtable0,(tableHash2Create p0 n0 p1 n1).subtable1],
      ∀ i, sub.buckets i = none := by
    intro sub mem i
    simp only [List.mem_cons,List.not_mem_nil,or_false] at mem
    rcases mem with rfl | rfl <;> rfl
  exact hash2IterateLoopEmpty cb key outPort _ empty .start st

theorem longLinearIterate :
    tableIterate (flowStatsDumpCallback 1 0) (.linear ⟨tableLinearMaxFlows,1,[longFlow],[0],1⟩)
      (flowExtractMatch matchAll) ofppNone .start ⟨ofpStatsReplyLen,[]⟩ = ⟨true,.start,longReply⟩ := by
  have serial : longFlow.serial = 0 := rfl
  have pass : (decide (Nat.toUInt64 0 ≤ ~~~SwTablePosition.start.private0) &&
      flowMatches2wild (flowExtractMatch matchAll) longFlow.key && flowHasOutPort longFlow ofppNone) = true := by
    rw [longFlowKey]
    simp only [flowHasOutPort,if_true,Bool.and_true]
    decide
  have stop : flowStatsDumpCallback 1 0 ⟨ofpStatsReplyLen,[]⟩ longFlow = (longReply,true) := by
    have length : longFlow.actions.length = 8 * 500 := longActionsLength
    have full : decide (maxFlowStatsBytes ≤ ofpStatsReplyLen + (ofpFlowStatsLen + 8 * 500)) = true := by decide
    unfold flowStatsDumpCallback
    rw [length,List.nil_append]
    dsimp only
    rw [full]
    rfl
  have restart : (⟨~~~(Nat.toUInt64 0 - 1),SwTablePosition.start.private1⟩ : SwTablePosition) = .start := by decide
  simp only [tableIterate,tableLinearIterate,linearIterateLoop,List.find?,serial,beq_self_eq_true]
  rw [if_pos pass,stop]
  simp only [restart]

theorem longTablesLoop :
    flowStatsTablesLoop (flowExtractMatch matchAll) 0 [.linear ⟨tableLinearMaxFlows,1,[longFlow],[0],1⟩]
      ⟨1,.start,allFlows⟩ ⟨ofpStatsReplyLen,[]⟩ = (⟨1,.start,allFlows⟩,longReply) :=
  tablesLoopStop (r := ⟨true,.start,longReply⟩) [] (Or.inl rfl) longLinearIterate rfl

theorem longReplyFull : decide (maxFlowStatsBytes ≤ longReply.size) = true := by decide

theorem longDumpAgain :
    flowStatsDump longChain 0 ⟨1,.start,allFlows⟩ ⟨ofpStatsReplyLen,[]⟩ = (⟨1,.start,allFlows⟩,longReply,true) := by
  have loop : flowStatsTablesLoop (flowExtractMatch allFlows.ofpMatch) 0 (longChain.tables.drop 1) ⟨1,.start,allFlows⟩
      ⟨ofpStatsReplyLen,[]⟩ = (⟨1,.start,allFlows⟩,longReply) := by
    rw [longChainTables]
    exact longTablesLoop
  rw [flowStatsDumpTables (by decide) loop,longReplyFull]

theorem longDumpFirst :
    flowStatsDump longChain 0 (flowStatsInit allFlows) ⟨ofpStatsReplyLen,[]⟩ = (⟨1,.start,allFlows⟩,longReply,true) := by
  obtain ⟨passed,same⟩ := hash2CreateIterate (flowStatsDumpCallback 0 0) 0x1EDC6F41 tableHashMaxFlows 0x741B8CD7
    tableHashMaxFlows (flowExtractMatch matchAll) allFlows.outPort ⟨ofpStatsReplyLen,[]⟩
  have loop : flowStatsTablesLoop (flowExtractMatch allFlows.ofpMatch) 0 (longChain.tables.drop 0) ⟨0,.start,allFlows⟩
      ⟨ofpStatsReplyLen,[]⟩ = (⟨1,.start,allFlows⟩,longReply) := by
    have query : allFlows.ofpMatch = matchAll := rfl
    rw [longChainTables,List.drop_zero,query,tablesLoopPass (s := ⟨0,.start,allFlows⟩) _ (Or.inl rfl) passed,same]
    exact longTablesLoop
  rw [flowStatsDumpTables (by decide) loop,longReplyFull]

/- Statistics of every flow, on the chain holding the long flow: every call of the dump reports that one flow
again and asks for another call, so however many calls are made the dump has not ended, and the flow has been
reported once per call. -/
theorem flowStatsDumpRepeats (n : Nat) :
    flowStatsReplies (List.replicate n (longChain,0)) (flowStatsInit allFlows) = List.replicate n (longReply,true) := by
  cases n with
  | zero => rfl
  | succ n =>
    rw [List.replicate_succ,flowStatsReplies,longDumpFirst]
    dsimp only
    rw [if_pos rfl,repliesRepeat longDumpAgain n,List.replicate_succ]

end OpenFlow.FlowStats
