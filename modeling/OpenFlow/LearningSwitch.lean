import OpenFlow.FlowStats

/-! What the learning switch of lib/learning-switch.c does with the flow statistics it asks for when a port's
spanning-tree state changes: process_flow_stats decides whether the entry receives on a port that may not
receive or outputs to a port that may not send, and if so sends a flow-mod to delete it. -/
namespace OpenFlow.LearningSwitch
open Actions Chain FlowMod Select FlowStats

/- enum port_state -/
def pDisabled : UInt32 := (1 : UInt32) <<< 0
def pListening : UInt32 := (1 : UInt32) <<< 1
def pLearning : UInt32 := (1 : UInt32) <<< 2
def pForwarding : UInt32 := (1 : UInt32) <<< 3
def pBlocking : UInt32 := (1 : UInt32) <<< 4

def stpMaxPorts : UInt16 := 255
def ofpcStp : UInt32 := (1 : UInt32) <<< 3

/- The fields of struct lswitch that process_flow_stats reads or counts in. -/
structure Lswitch where
  capabilities : UInt32
  portStates : Nat → UInt32
  nNoRecv : Nat
  nNoSend : Nat

/- Ports beyond the spanning tree's, and every port of a switch without OFPC_STP, forward. -/
def getPortState (sw : Lswitch) (portNo : UInt16) : UInt32 :=
  if portNo ≥ stpMaxPorts ∨ sw.capabilities &&& ofpcStp = 0 then pForwarding else sw.portStates portNo.toNat

def mayRecv (sw : Lswitch) (portNo : UInt16) (anyActions : Bool) : Bool :=
  let state := getPortState sw portNo
  !(if anyActions then state &&& (pDisabled ||| pListening ||| pBlocking) ≠ 0
    else state &&& (pDisabled ||| pListening ||| pBlocking ||| pLearning) ≠ 0)

def maySend (sw : Lswitch) (portNo : UInt16) : Bool := getPortState sw portNo &&& pForwarding ≠ 0

/- The loop over the actions of an entry from offset `off`: `some true` at an output to a port that may not
send, `some false` when the loop ends or breaks on a bad length. -/
def sendBlocked (sw : Lswitch) (acts : List UInt8) : Nat → Nat → Option Bool
  | 0, _ => none
  | fuel + 1, off =>
    if off ≥ acts.length then some false
    else
      let len := (BigEndian.get16 acts (off + 2)).toNat
      if len > acts.length - off then some false
      else if len % 8 ≠ 0 then some false
      else if BigEndian.get16 acts off = ofpatOutput ∧ !maySend sw (BigEndian.get16 acts (off + 4)) then some true
      else sendBlocked sw acts fuel (off + len)

/- The flow-mod process_flow_stats sends, as recv_flow reads it on a little-endian host: the match copied,
OFPFC_DELETE_STRICT byte-swapped, and every other field zero. -/
def stpDeleteFlowMod (ofs : OfpFlowStats) : OfpFlowMod :=
  { ofpMatch := ofs.ofpMatch
    cookie := 0
    command := LittleEndian.swap16 ofpfcDeleteStrict
    idleTimeout := 0
    hardTimeout := 0
    priority := 0
    bufferId := 0
    outPort := 0
    flags := 0
    actions := [] }

/- process_flow_stats: the switch with its counters, and the flow-mod it sends, if any; `none` when the action
loop never ends. -/
def processFlowStats (sw : Lswitch) (ofs : OfpFlowStats) : Option (Lswitch × Option OfpFlowMod) :=
  let acts := ofs.actions.take (ofs.length.toNat - ofpFlowStatsLen)
  if ofs.ofpMatch.wildcards &&& ofpfwInPort = 0 ∧
      !mayRecv sw ofs.ofpMatch.inPort (decide (ofs.length.toNat > ofpFlowStatsLen)) then
    some ({ sw with nNoRecv := sw.nNoRecv + 1 },some (stpDeleteFlowMod ofs))
  else
    (sendBlocked sw acts (acts.length + 1) 0).map fun blocked =>
      if blocked then ({ sw with nNoSend := sw.nNoSend + 1 },some (stpDeleteFlowMod ofs)) else (sw,none)

theorem processFlowStatsSends {sw sw' : Lswitch} {ofs : OfpFlowStats} {m : OfpFlowMod}
    (sent : processFlowStats sw ofs = some (sw',some m)) : m = stpDeleteFlowMod ofs := by
  unfold processFlowStats at sent
  split at sent
  · cases sent
    rfl
  · obtain ⟨blocked,_,chosen⟩ := Option.map_eq_some_iff.mp sent
    split at chosen
    · cases chosen
      rfl
    · cases chosen

/- The command the datapath reads is none of those recv_flow handles, so the flow-mod changes no chain,
removes nothing and reports no error. -/
theorem stpDeleteIgnored (sw sw' : Lswitch) (ofs : OfpFlowStats) (m : OfpFlowMod)
    (sent : processFlowStats sw ofs = some (sw',some m)) (chain : SwChain) (now : UInt64) :
    m.command = 0x0400 ∧ m.priority = 0 ∧ m.outPort = 0 ∧ recvFlow chain m now = ⟨chain,[],none⟩ := by
  rw [processFlowStatsSends sent]
  have swapped : (stpDeleteFlowMod ofs).command = 0x0400 := rfl
  refine ⟨swapped,rfl,rfl,?_⟩
  unfold recvFlow
  rw [swapped]
  rfl

/- A switch with spanning tree whose port 1 is blocking, and the statistics of an entry that matches in_port 1
exactly and outputs to port 2. -/
def blockingSwitch : Lswitch := ⟨ofpcStp,fun n => if n = 1 then pBlocking else pForwarding,0,0⟩

def portOneStats : OfpFlowStats :=
  { fillFlowStats { wideFlow with
      key := { wideFlow.key with wildcards := ofpfwAll &&& ~~~ofpfwInPort,flow := { wideFlow.key.flow with inPort := 1 } }
      actions := ofpActionOutput 2 0 } 0 0 with length := 96 }

theorem portOneDeleteIgnored :
    (processFlowStats blockingSwitch portOneStats).map Prod.snd = some (some (stpDeleteFlowMod portOneStats)) ∧
      (stpDeleteFlowMod portOneStats).command = 0x0400 ∧ (stpDeleteFlowMod portOneStats).priority = 0 ∧
      (stpDeleteFlowMod portOneStats).outPort = 0 ∧
      recvFlow chainCreate (stpDeleteFlowMod portOneStats) 0 = ⟨chainCreate,[],none⟩ := by
  have sent : processFlowStats blockingSwitch portOneStats =
      some ({ blockingSwitch with nNoRecv := 1 },some (stpDeleteFlowMod portOneStats)) := rfl
  refine ⟨by rw [sent]; rfl,stpDeleteIgnored _ _ _ _ sent chainCreate 0⟩

section Loop
variable {sw : Lswitch} {acts : List UInt8}

theorem sendBlockedStalls {off : Nat} (inside : off < acts.length) (empty : BigEndian.get16 acts (off + 2) = 0)
    (passes : BigEndian.get16 acts off = ofpatOutput → maySend sw (BigEndian.get16 acts (off + 4)) = true) :
    ∀ fuel, sendBlocked sw acts fuel off = none
  | 0 => rfl
  | fuel + 1 => by
    have notPast : ¬ off ≥ acts.length := by omega
    have notRefused : ¬ (BigEndian.get16 acts off = ofpatOutput ∧ !maySend sw (BigEndian.get16 acts (off + 4))) := by
      rintro ⟨output,refused⟩
      simp [passes output] at refused
    simp only [sendBlocked,notPast,if_false,empty,UInt16.toNat_zero,Nat.not_lt_zero,Nat.zero_mod,ne_eq,
      not_true_eq_false,notRefused,Nat.add_zero]
    exact sendBlockedStalls inside empty passes fuel

end Loop

/- OFPST_FLOW, OFPSF_REPLY_MORE and LLONG_MIN. -/
def ofpstFlow : UInt16 := 1
def ofpsfReplyMore : UInt16 := 1
def llongMin : Int := -2 ^ 63

/- The fields of struct lswitch that process_stats_reply reads or sets. -/
structure FlowQuery where
  lastQuery : Int
  lastReply : Int
  queryXid : UInt32
  nFlows : Nat

/- flow_stats_next at offset `pos` of a reply body: the entry there and the offset after it, or `none` where
it returns NULL. -/
def flowStatsNext (body : List UInt8) (pos : Nat) : Option (Nat × Nat) :=
  let bytesLeft := body.length - pos
  if bytesLeft < ofpFlowStatsLen then none
  else
    let length := (BigEndian.get16 body pos).toNat
    if length < ofpFlowStatsLen ∨ length > bytesLeft ∨ (length - ofpFlowStatsLen) % 8 ≠ 0 then none
    else some (pos,pos + length)

theorem flowStatsNextAdvances {body : List UInt8} {pos fs next : Nat} (found : flowStatsNext body pos = some (fs,next)) :
    fs = pos ∧ pos + ofpFlowStatsLen ≤ next ∧ next ≤ body.length := by
  unfold flowStatsNext ofpFlowStatsLen at found
  dsimp only at found
  split_ifs at found with full fits
  cases found
  simp only [not_or,not_lt] at full fits
  exact ⟨rfl,by unfold ofpFlowStatsLen; omega,by omega⟩

/- The entries flow_stats_first and flow_stats_next hand over, from `pos`. -/
def flowStatsEntries (body : List UInt8) (pos : Nat) : List Nat :=
  match _found : flowStatsNext body pos with
  | none => []
  | some (fs,next) => fs :: flowStatsEntries body next
termination_by body.length - pos
decreasing_by
  have := flowStatsNextAdvances _found
  simp only [ofpFlowStatsLen] at this
  omega

theorem flowStatsEntriesNone {body : List UInt8} {pos : Nat} (ended : flowStatsNext body pos = none) :
    flowStatsEntries body pos = [] := by
  rw [flowStatsEntries]
  split
  · rfl
  · simp_all

theorem flowStatsEntriesSome {body : List UInt8} {pos fs next : Nat} (found : flowStatsNext body pos = some (fs,next)) :
    flowStatsEntries body pos = fs :: flowStatsEntries body next := by
  rw [flowStatsEntries]
  split
  · simp_all
  · simp_all

/- The body flow_stats_first walks: from offsetof(struct ofp_stats_reply, body) to the header's length. -/
def replyBody (osr : List UInt8) : List UInt8 :=
  (osr.drop ofpStatsReplyLen).take ((BigEndian.get16 osr 2).toNat - ofpStatsReplyLen)

/- struct ofp_match as it lies in a message, each field in host order. -/
def readOfpMatch (bs : List UInt8) (off : Nat) : OfpMatch :=
  { wildcards := BigEndian.get32 bs off
    inPort := BigEndian.get16 bs (off + 4)
    dlSrc := Vector.ofFn fun i => bs.getD (off + 6 + i) 0
    dlDst := Vector.ofFn fun i => bs.getD (off + 12 + i) 0
    dlVlan := BigEndian.get16 bs (off + 18)
    dlVlanPcp := bs.getD (off + 20) 0
    dlType := BigEndian.get16 bs (off + 22)
    nwTos := bs.getD (off + 24) 0
    nwProto := bs.getD (off + 25) 0
    nwSrc := BigEndian.get32 bs (off + 28)
    nwDst := BigEndian.get32 bs (off + 32)
    tpSrc := BigEndian.get16 bs (off + 36)
    tpDst := BigEndian.get16 bs (off + 38) }

/- struct ofp_flow_stats at the start of `entry`, with the bytes after it. -/
def readFlowStats (entry : List UInt8) : OfpFlowStats :=
  { length := BigEndian.get16 entry 0
    tableId := entry.getD 2 0
    ofpMatch := readOfpMatch entry 4
    durationSec := BigEndian.get32 entry 44
    durationNsec := BigEndian.get32 entry 48
    priority := BigEndian.get16 entry 52
    idleTimeout := BigEndian.get16 entry 54
    hardTimeout := BigEndian.get16 entry 56
    cookie := BigEndian.get64 entry 64
    packetCount := BigEndian.get64 entry 72
    byteCount := BigEndian.get64 entry 80
    actions := entry.drop ofpFlowStatsLen }

/- The loop of process_stats_reply over the entries: n_flows counts each before process_flow_stats runs on it.
-/
def processEntries (body : List UInt8) : Lswitch → FlowQuery → List Nat → Option (Lswitch × FlowQuery × List OfpFlowMod)
  | sw,q,[] => some (sw,q,[])
  | sw,q,fs :: rest => do
    let (sw,sent) ← processFlowStats sw (readFlowStats (body.drop fs))
    let (sw,q,more) ← processEntries body sw { q with nFlows := q.nFlows + 1 } rest
    pure (sw,q,sent.toList ++ more)

/- process_stats_reply: a reply to the pending flow query is processed entry by entry; the last part of it
ends the query. -/
def processStatsReply (sw : Lswitch) (q : FlowQuery) (osr : List UInt8) (now : Int) :
    Option (Lswitch × FlowQuery × List OfpFlowMod) :=
  if q.lastQuery = llongMin ∨ BigEndian.get16 osr 8 ≠ ofpstFlow ∨ BigEndian.get32 osr 4 ≠ q.queryXid then
    some (sw,q,[])
  else
    (processEntries (replyBody osr) sw q (flowStatsEntries (replyBody osr) 0)).map fun (sw,q,sent) =>
      if BigEndian.get16 osr 10 &&& ofpsfReplyMore = 0 then (sw,{ q with lastQuery := llongMin,lastReply := llongMin },sent)
      else (sw,{ q with lastReply := now },sent)

theorem processEntriesStalls {body : List UInt8} {fs : Nat} {rest : List Nat} (sw : Lswitch) (q : FlowQuery)
    (stalls : ∀ sw, processFlowStats sw (readFlowStats (body.drop fs)) = none) :
    processEntries body sw q (fs :: rest) = none := by
  simp [processEntries,stalls]

/- A flow-stats reply of xid 7 with one 96-byte entry: every field wildcarded, and one action of type
OFPAT_SET_VLAN_VID whose length is 0. -/
def zeroLengthReply : List UInt8 :=
  [1,17,0,108,0,0,0,7,0,1,0,0] ++
    ([0,96,0,0,0,0x3f,0xff,0xff] ++ List.replicate 80 0) ++ [0,1,0,0,0,0,0,0]

/- flow_stats_next accepts the entry, but its action has length 0 and no output, so for every switch the loop
of process_flow_stats adds 0 to its cursor on every pass and process_stats_reply never returns. -/
theorem zeroLengthActionLoops (sw : Lswitch) (q : FlowQuery) (now : Int) (pending : q.lastQuery ≠ llongMin)
    (asked : q.queryXid = 7) :
    flowStatsEntries (replyBody zeroLengthReply) 0 = [0] ∧
      BigEndian.get16 (readFlowStats (replyBody zeroLengthReply)).actions 2 = 0 ∧
      (∀ fuel, sendBlocked sw (readFlowStats (replyBody zeroLengthReply)).actions fuel 0 = none) ∧
      processStatsReply sw q zeroLengthReply now = none := by
  have entries : flowStatsEntries (replyBody zeroLengthReply) 0 = [0] := by
    rw [flowStatsEntriesSome (by decide : flowStatsNext (replyBody zeroLengthReply) 0 = some (0,96)),
      flowStatsEntriesNone (by decide : flowStatsNext (replyBody zeroLengthReply) 96 = none)]
  have acts : (readFlowStats (replyBody zeroLengthReply)).actions = [0,1,0,0,0,0,0,0] := by decide
  have loops : ∀ sw' : Lswitch, ∀ fuel, sendBlocked sw' [0,1,0,0,0,0,0,0] fuel 0 = none := fun _ =>
    sendBlockedStalls (by decide) (by decide) fun output => absurd output (by decide)
  have stalls : ∀ sw', processFlowStats sw' (readFlowStats ((replyBody zeroLengthReply).drop 0)) = none := by
    intro sw'
    have wildcarded : (readFlowStats (replyBody zeroLengthReply)).ofpMatch.wildcards &&& ofpfwInPort ≠ 0 := by decide
    have walked : (readFlowStats (replyBody zeroLengthReply)).actions.take
        ((readFlowStats (replyBody zeroLengthReply)).length.toNat - ofpFlowStatsLen) = [0,1,0,0,0,0,0,0] := by decide
    simp only [List.drop_zero,processFlowStats,wildcarded,false_and,if_false,walked,loops,Option.map_none]
  have accepted : ¬ (q.lastQuery = llongMin ∨ BigEndian.get16 zeroLengthReply 8 ≠ ofpstFlow ∨
      BigEndian.get32 zeroLengthReply 4 ≠ q.queryXid) := by
    rw [asked]
    simp only [pending,false_or]
    decide
  refine ⟨entries,by rw [acts]; decide,by rw [acts]; exact loops sw,?_⟩
  rw [processStatsReply,if_neg accepted,entries,processEntriesStalls sw q stalls,Option.map_none]

/- Port 1 blocking, and the query of xid 7 pending. -/
theorem zeroLengthReplyLoops :
    (⟨0,0,7,0⟩ : FlowQuery).lastQuery ≠ llongMin ∧ processStatsReply blockingSwitch ⟨0,0,7,0⟩ zeroLengthReply 0 = none :=
  ⟨by decide,(zeroLengthActionLoops blockingSwitch ⟨0,0,7,0⟩ 0 (by decide) rfl).2.2.2⟩

end OpenFlow.LearningSwitch
