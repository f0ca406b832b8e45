import Mathlib
import OpenFlow.Datapath
import OpenFlow.FlowStats
import OpenFlow.Protection
import OpenFlow.LearningSwitch
import OpenFlow.OfExtMsg
import OpenFlow.Vconn
import OpenFlow.VconnStream

/-! The control path of the user-space datapath (udatapath/datapath.c): fwd_control_input checks a message's
header, picks the handler and minimum size of its type, and the handlers read the message as the struct of
their type. -/
namespace OpenFlow.ControlInput
open Actions Chain Execute FlowMod Datapath FlowStats Protection LearningSwitch

/- enum ofp_type: the requests fwd_control_input takes, and the replies. -/
def ofptFeaturesRequest : UInt8 := 5
def ofptFeaturesReply : UInt8 := 6
def ofptGetConfigRequest : UInt8 := 7
def ofptGetConfigReply : UInt8 := 8
def ofptSetConfig : UInt8 := 9
def ofptPacketOut : UInt8 := 13
def ofptFlowMod : UInt8 := 14
def ofptPortMod : UInt8 := 15
def ofptStatsRequest : UInt8 := 16
def ofptBarrierRequest : UInt8 := 18
def ofptBarrierReply : UInt8 := 19
def ofptQueueGetConfigRequest : UInt8 := 20
def ofptQueueGetConfigReply : UInt8 := 21

def ofpetBadRequest : UInt16 := 1
def ofpbrcBadType : UInt16 := 1
def ofpbrcBadVendor : UInt16 := 3
def ofpetQueueOpFailed : UInt16 := 5
def ofppMax : UInt16 := 0xff00
def ofprrDelete : UInt8 := 2
def privateVendorId : UInt32 := 0x00acde48
def openflowVendorId : UInt32 := 0x000026e1

/- OFP_SUPPORTED_CAPABILITIES: flow, table, port and queue statistics, ARP match on IP; OFP_SUPPORTED_ACTIONS:
every action but OFPAT_SET_NW_TOS. -/
def ofpSupportedCapabilities : UInt32 := (1 : UInt32) ||| 2 ||| 4 ||| 64 ||| 128
def ofpSupportedActions : UInt32 := (0xff : UInt32) ||| ((1 : UInt32) <<< 9) ||| ((1 : UInt32) <<< 10) ||| ((1 : UInt32) <<< 11)
def nPktBuffers : UInt32 := (1 : UInt32) <<< pktBufferBits

/- sizeof the fixed part of each struct a message is read as. -/
def ofpSwitchConfigLen : Nat := 12
def ofpFlowModLen : Nat := 72
def ofpPortModLen : Nat := 32
def ofpStatsRequestLen : Nat := 12
def ofpVendorHeaderLen : Nat := 12

/- struct ofp_header at the front of a message. -/
def headerVersion (msg : List UInt8) : UInt8 := msg.getD 0 0
def headerType (msg : List UInt8) : UInt8 := msg.getD 1 0
def headerLength (msg : List UInt8) : UInt16 := BigEndian.get16 msg 2
def headerXid (msg : List UInt8) : UInt32 := BigEndian.get32 msg 4

/- make_openflow_xid, the body written after the header, and the length update_openflow_length puts in it
before the message is sent. -/
def makeOpenflowXid (type : UInt8) (xid : UInt32) (body : List UInt8) : List UInt8 :=
  [ofpVersion,type] ++ BigEndian.ofUInt16 (body.length + 8).toUInt16 ++ BigEndian.ofUInt32 xid ++ body

/- The bytes of a message of the vconn layer: vconn_send asserts that the header's length is the message's
size. -/
def msgBytes (m : Vconn.Msg) : List UInt8 :=
  [m.version,m.type] ++ BigEndian.ofUInt16 (m.body.length + 8).toUInt16 ++ BigEndian.ofUInt32 m.xid ++ m.body

/- The image of struct ofp_match in a message, its pads zero. -/
def ofpMatchBytes (m : OfpMatch) : List UInt8 :=
  BigEndian.ofUInt32 m.wildcards ++ BigEndian.ofUInt16 m.inPort ++ m.dlSrc.toList ++ m.dlDst.toList ++
    BigEndian.ofUInt16 m.dlVlan ++ [m.dlVlanPcp,0] ++ BigEndian.ofUInt16 m.dlType ++ [m.nwTos,m.nwProto,0,0] ++
    BigEndian.ofUInt32 m.nwSrc ++ BigEndian.ofUInt32 m.nwDst ++ BigEndian.ofUInt16 m.tpSrc ++
    BigEndian.ofUInt16 m.tpDst

/- The ofp_flow_mod a message is read as. -/
def readFlowMod (msg : List UInt8) : OfpFlowMod :=
  { ofpMatch := readOfpMatch msg 8
    cookie := BigEndian.get64 msg 48
    command := BigEndian.get16 msg 56
    idleTimeout := BigEndian.get16 msg 58
    hardTimeout := BigEndian.get16 msg 60
    priority := BigEndian.get16 msg 62
    bufferId := BigEndian.get32 msg 64
    outPort := BigEndian.get16 msg 68
    flags := BigEndian.get16 msg 70
    actions := (msg.take (headerLength msg).toNat).drop ofpFlowModLen }

/- The image of a flow-mod, as make_flow_mod and its callers fill it in. -/
def ofpFlowModBytes (xid : UInt32) (ofm : OfpFlowMod) : List UInt8 :=
  makeOpenflowXid ofptFlowMod xid
    (ofpMatchBytes ofm.ofpMatch ++ BigEndian.ofUInt64 ofm.cookie ++ BigEndian.ofUInt16 ofm.command ++
      BigEndian.ofUInt16 ofm.idleTimeout ++ BigEndian.ofUInt16 ofm.hardTimeout ++ BigEndian.ofUInt16 ofm.priority ++
      BigEndian.ofUInt32 ofm.bufferId ++ BigEndian.ofUInt16 ofm.outPort ++ BigEndian.ofUInt16 ofm.flags ++ ofm.actions)

def readPacketOut (msg : List UInt8) : OfpPacketOut :=
  { length := headerLength msg
    bufferId := BigEndian.get32 msg 8
    inPort := BigEndian.get16 msg 12
    actionsLen := BigEndian.get16 msg 14
    body := msg.drop ofpPacketOutLen }

/- The fields of ofp_port_mod update_port_flags reads; `advertise` is read by none. -/
def readPortMod (msg : List UInt8) : OfpPortMod :=
  { portNo := BigEndian.get16 msg 8
    hwAddr := Vector.ofFn fun i => msg.getD (10 + i) 0
    config := BigEndian.get32 msg 16
    mask := BigEndian.get32 msg 20 }

/- What fill_port_desc reads of a port besides its number, address and config: its device's name and features,
and sw_port's `state`. -/
structure PortInfo where
  name : Vector UInt8 16
  state : UInt32
  curr : UInt32
  advertised : UInt32
  supported : UInt32
  peer : UInt32

/- What the control path reads that the datapath record does not hold: dp->id, each port's PortInfo, each
queue's min_rate, the handler of the OpenFlow extension (of_ext_recv_msg, modelled over its own port table in
OfExtMsg), and the wildcards recv_packet_out and add_flow leave unset in a key on their stack. -/
structure Env where
  datapathId : UInt64
  portInfo : UInt16 → PortInfo
  minRate : UInt16 → UInt32 → UInt16
  ofExtRecvMsg : Datapath → List UInt8 → Except Halt Datapath
  keyWildcards : UInt32

section Handlers
variable (env : Env)

/- make_barrier_reply and make_echo_reply: the request, header.length bytes of it, with the reply's type. -/
def copyReply (type : UInt8) (rq : List UInt8) : List UInt8 :=
  (rq.take (headerLength rq).toNat).set 1 type

def makeBarrierReply (rq : List UInt8) : List UInt8 := copyReply ofptBarrierReply rq

def makeEchoReply (rq : List UInt8) : List UInt8 := copyReply Vconn.ofptEchoReply rq

/- fill_port_desc over a zeroed ofp_phy_port: a port without a device keeps its name, address and features
zero. -/
def fillPortDesc (p : SwPort) : List UInt8 :=
  let info := env.portInfo p.portNo
  if p.netdev then
    BigEndian.ofUInt16 p.portNo ++ p.hwAddr.toList ++ info.name.toList ++ BigEndian.ofUInt32 p.config ++
      BigEndian.ofUInt32 info.state ++ BigEndian.ofUInt32 info.curr ++ BigEndian.ofUInt32 info.advertised ++
      BigEndian.ofUInt32 info.supported ++ BigEndian.ofUInt32 info.peer
  else
    BigEndian.ofUInt16 p.portNo ++ List.replicate 22 0 ++ BigEndian.ofUInt32 p.config ++
      BigEndian.ofUInt32 info.state ++ List.replicate 16 0

def dpSendFeaturesReply (dp : Datapath) (xid : UInt32) : Datapath :=
  dp.send (.controller (makeOpenflowXid ofptFeaturesReply xid
    (BigEndian.ofUInt64 env.datapathId ++ BigEndian.ofUInt32 nPktBuffers ++ [dp.chain.tables.length.toUInt8,0,0,0] ++
      BigEndian.ofUInt32 ofpSupportedCapabilities ++ BigEndian.ofUInt32 ofpSupportedActions ++
      dp.ports.flatMap (fillPortDesc env))))

def recvGetConfigRequest (dp : Datapath) (xid : UInt32) : Datapath :=
  dp.send (.controller (makeOpenflowXid ofptGetConfigReply xid
    (BigEndian.ofUInt16 dp.flags ++ BigEndian.ofUInt16 dp.missSendLen)))

/- recv_set_config: a fragment mode other than NORMAL and DROP becomes DROP. -/
def recvSetConfig (dp : Datapath) (msg : List UInt8) : Datapath :=
  let flags := BigEndian.get16 msg 8 &&& ofpcFragMask
  let flags :=
    if flags &&& ofpcFragMask ≠ ofpcFragNormal ∧ flags &&& ofpcFragMask ≠ ofpcFragDrop then
      (flags &&& ~~~ofpcFragMask) ||| ofpcFragDrop
    else flags
  { dp with flags,missSendLen := BigEndian.get16 msg 10 }

/- fill_queue_desc: an ofp_packet_queue with its one min-rate property. -/
def fillQueueDesc (portNo : UInt16) (q : SwQueue) : List UInt8 :=
  BigEndian.ofUInt32 q.queueId ++ BigEndian.ofUInt16 24 ++ [0,0] ++ BigEndian.ofUInt16 OfExtMsg.ofpqtMinRate ++
    BigEndian.ofUInt16 16 ++ [0,0,0,0] ++ BigEndian.ofUInt16 (env.minRate portNo q.queueId) ++ List.replicate 6 0

/- recv_queue_get_config_request: a port below OFPP_MAX that dp_lookup_port finds under its own number gets
its queues described; any other gets OFPQOFC_BAD_PORT. -/
def recvQueueGetConfigRequest (dp : Datapath) (msg : List UInt8) : Datapath :=
  let portNo := BigEndian.get16 msg 8
  let badPort := dp.send (.error ofpetQueueOpFailed OfExtMsg.ofpqofcBadPort)
  if portNo < ofppMax then
    match dpLookupPort dp portNo with
    | some p =>
      if p.portNo ≠ portNo then badPort
      else dp.send (.controller (makeOpenflowXid ofptQueueGetConfigReply (headerXid msg)
        (BigEndian.ofUInt16 portNo ++ List.replicate 6 0 ++ p.queues.flatMap (fillQueueDesc env portNo))))
    | none => badPort
  else badPort

/- An entry of the table `stats` recv_stats_request searches; vendor_stats_init refuses every vendor, the
other inits accept every request. -/
structure StatsType where
  type : UInt16
  minBody : Nat
  maxBody : Nat
  initRefuses : Bool

def stats : List StatsType :=
  [⟨0,0,0,false⟩,⟨1,44,44,false⟩,⟨2,44,44,false⟩,⟨3,0,0,false⟩,⟨4,8,8,false⟩,⟨5,8,8,false⟩,⟨0xffff,8,32,true⟩]

/- What recv_stats_request hands to remote_start_dump: the type, and its copy of the request, rq_len bytes of
it. -/
structure StatsDump where
  type : UInt16
  rq : List UInt8
  deriving DecidableEq, Repr

/- recv_stats_request: body_len is an int, negative for a header shorter than the request struct. -/
def recvStatsRequest (msg : List UInt8) : Option StatsDump :=
  let rqLen := (headerLength msg).toNat
  let type := BigEndian.get16 msg 8
  match stats.find? (·.type = type) with
  | none => none
  | some st =>
    let bodyLen : Int := rqLen - ofpStatsRequestLen
    if bodyLen < st.minBody ∨ bodyLen > st.maxBody then none
    else if st.initRefuses then none
    else some ⟨type,msg.take rqLen⟩

def recvVendor (dp : Datapath) (msg : List UInt8) : Except Halt Datapath :=
  let vendor := BigEndian.get32 msg 8
  if vendor = privateVendorId then pure { dp with chain := (privateRecvMsg dp.chain msg dp.nowMsec).2 }
  else if vendor = openflowVendorId then env.ofExtRecvMsg dp msg
  else pure (dp.send (.error ofpetBadRequest ofpbrcBadVendor))

/- ofp_flow_removed as dp_send_flow_end fills it, with xid 0. -/
def ofpFlowRemovedBytes (m : OfpFlowRemoved) : List UInt8 :=
  makeOpenflowXid Vconn.ofptFlowRemoved 0
    (ofpMatchBytes m.ofpMatch ++ BigEndian.ofUInt64 m.cookie ++ BigEndian.ofUInt16 m.priority ++ [m.reason,0] ++
      BigEndian.ofUInt32 m.durationSec ++ BigEndian.ofUInt32 m.durationNsec ++ BigEndian.ofUInt16 m.idleTimeout ++
      [0,0] ++ BigEndian.ofUInt64 m.packetCount ++ BigEndian.ofUInt64 m.byteCount)

def sendFlowEnd (dp : Datapath) (flow : SwFlow) (reason : UInt8) : Datapath :=
  match dpSendFlowEnd flow reason dp.nowMsec with
  | some m => dp.send (.controller (ofpFlowRemovedBytes m))
  | none => dp

/- recv_flow at the datapath: the chain recvFlow leaves, at time_msec(), a FLOW_REMOVED for each entry a
delete removed, the error sent back, and the packet buffered under buffer_id. -/
def recvFlowDp (fuel : Nat) (dp : Datapath) (ofm : OfpFlowMod) : Except Halt Datapath :=
  let r := recvFlow dp.chain ofm dp.nowMsec
  let dp := r.removed.foldl (fun dp flow => sendFlowEnd dp flow ofprrDelete) { dp with chain := r.chain }
  let buffered := (ofm.command = ofpfcAdd ∨ ofm.command = ofpfcModify ∨ ofm.command = ofpfcModifyStrict) ∧
    ofm.bufferId ≠ 0xffffffff
  match r.error with
  | some (type,code) =>
    let dp := dp.send (.error type code)
    pure (if buffered then discardBuffer dp ofm.bufferId else dp)
  | none =>
    if buffered then
      match retrieveBuffer dp ofm.bufferId with
      | (some buffer,dp) =>
        let (_,flow,buffer) := flowExtract buffer ofm.ofpMatch.inPort
        executeActions fuel dp buffer ⟨flow,env.keyWildcards,0,0⟩ ofm.actions ofm.actions.length false
      | (none,dp) => pure dp
    else pure dp

/- The handlers of fwd_control_input's switch. -/
inductive Handler where
  | barrierRequest
  | featuresRequest
  | getConfigRequest
  | setConfig
  | packetOut
  | flow
  | portMod
  | statsRequest
  | echoRequest
  | echoReply
  | queueGetConfigRequest
  | vendor
  deriving DecidableEq, Repr

/- The switch on the message type: the handler, and min_size. -/
def handlerOf (type : UInt8) : Option (Handler × Nat) :=
  if type = ofptBarrierRequest then some (.barrierRequest,VconnStream.ofpHeaderLen)
  else if type = ofptFeaturesRequest then some (.featuresRequest,VconnStream.ofpHeaderLen)
  else if type = ofptGetConfigRequest then some (.getConfigRequest,VconnStream.ofpHeaderLen)
  else if type = ofptSetConfig then some (.setConfig,ofpSwitchConfigLen)
  else if type = ofptPacketOut then some (.packetOut,ofpPacketOutLen)
  else if type = ofptFlowMod then some (.flow,ofpFlowModLen)
  else if type = ofptPortMod then some (.portMod,ofpPortModLen)
  else if type = ofptStatsRequest then some (.statsRequest,ofpStatsRequestLen)
  else if type = Vconn.ofptEchoRequest then some (.echoRequest,VconnStream.ofpHeaderLen)
  else if type = Vconn.ofptEchoReply then some (.echoReply,VconnStream.ofpHeaderLen)
  else if type = ofptQueueGetConfigRequest then some (.queueGetConfigRequest,VconnStream.ofpHeaderLen)
  else if type = Vconn.ofptVendor then some (.vendor,ofpVendorHeaderLen)
  else none

/- Each handler on a message of its type, with the dump a stats request starts. -/
def runHandler (fuel : Nat) (dp : Datapath) (msg : List UInt8) : Handler → Except Halt (Datapath × Option StatsDump)
  | .barrierRequest => pure (dp.send (.controller (makeBarrierReply msg)),none)
  | .featuresRequest => pure (dpSendFeaturesReply env dp (headerXid msg),none)
  | .getConfigRequest => pure (recvGetConfigRequest dp (headerXid msg),none)
  | .setConfig => pure (recvSetConfig dp msg,none)
  | .packetOut => (recvPacketOut fuel dp (readPacketOut msg) env.keyWildcards).map (·,none)
  | .flow => (recvFlowDp env fuel dp (readFlowMod msg)).map (·,none)
  | .portMod => (updatePortFlags dp (readPortMod msg)).map (·,none)
  | .statsRequest => pure (dp,recvStatsRequest msg)
  | .echoRequest => pure (dp.send (.controller (makeEchoReply msg)),none)
  | .echoReply => pure (dp,none)
  | .queueGetConfigRequest => pure (recvQueueGetConfigRequest env dp msg,none)
  | .vendor => (recvVendor env dp msg).map (·,none)

/- fwd_control_input on a buffer of msg.length bytes. -/
def fwdControlInput (fuel : Nat) (dp : Datapath) (msg : List UInt8) : Except Halt (Datapath × Option StatsDump) :=
  if (headerLength msg).toNat > msg.length then pure (dp,none)
  else if headerVersion msg ≠ ofpVersion then .error .assertFailed
  else match handlerOf (headerType msg) with
    | none => pure (dp.send (.error ofpetBadRequest ofpbrcBadType),none)
    | some (h,minSize) => if msg.length < minSize then pure (dp,none) else runHandler env fuel dp msg h

/- The receiving pass of remote_run's loop: a message shorter than a header is dropped. -/
def remoteRecv (fuel : Nat) (dp : Datapath) (msg : List UInt8) : Except Halt (Datapath × Option StatsDump) :=
  if msg.length < VconnStream.ofpHeaderLen then pure (dp,none) else fwdControlInput env fuel dp msg

end Handlers

/-! Frames, stated with `SatisfiesM` (every result the computation returns satisfies the predicate): a reading
`obs` of the state that the outputs of execute_actions keep, the whole action loop keeps. -/

section Keeps
variable {σ β : Type} (obs : σ → β) (out : DoOutput σ) (acts : List UInt8) (inPort : UInt16)
  (keeps : ∀ dp b i m p q, SatisfiesM (fun dp' => obs dp' = obs dp) (out dp b i m p q))
include keeps

theorem executeStepKeeps (dp : σ) (st : LoopState) (p : Nat) :
    SatisfiesM (fun r : σ × LoopState => obs r.1 = obs dp) (executeStep out acts inPort dp st p) := by
  have idle : ∀ dp st, st.prev = none →
      SatisfiesM (fun r : σ × LoopState => obs r.1 = obs dp) (executeStep out acts inPort dp st p) := by
    intro dp st none
    simp only [executeStep,none,pure_bind]
    split_ifs
    · exact SatisfiesM.pure rfl
    · exact SatisfiesM.pure rfl
    · exact SatisfiesM.bind SatisfiesM.trivial fun _ _ => SatisfiesM.pure rfl
    · exact SatisfiesM.pure rfl
  cases pending : st.prev with
  | none => exact idle dp st pending
  | some pq =>
    rw [executeStepPending out acts inPort pending]
    exact SatisfiesM.bind (keeps ..) fun dp' same => (idle dp' _ rfl).imp fun later => later.trans same

theorem executeLoopKeeps : ∀ (steps : Nat) (dp : σ) (st : LoopState) (p rem : Nat),
    SatisfiesM (fun r : σ × LoopState => obs r.1 = obs dp) (executeLoop out acts inPort steps dp st p rem)
  | 0, _, _, _, _ => by simp [executeLoop]
  | steps + 1, dp, st, p, rem => by
    unfold executeLoop
    split_ifs
    · exact SatisfiesM.pure rfl
    · simp
    · apply SatisfiesM.bind (executeStepKeeps obs out acts inPort keeps dp st p)
      rintro ⟨dp',st'⟩ same
      dsimp only
      split_ifs
      · simp
      · exact (executeLoopKeeps steps dp' st' _ _).imp fun later => later.trans same

theorem executeActionsWithKeeps (dp : σ) (buffer : Ofpbuf) (key : SwFlowKey) (actionsLen : Nat) :
    SatisfiesM (fun dp' => obs dp' = obs dp) (executeActionsWith out acts dp buffer key actionsLen) := by
  unfold executeActionsWith
  apply SatisfiesM.bind (executeLoopKeeps obs out acts _ keeps _ dp _ 0 actionsLen)
  rintro ⟨dp',st'⟩ same
  dsimp only at same ⊢
  unfold lastOutput
  split
  · exact (keeps ..).imp fun later => later.trans same
  · exact SatisfiesM.pure same

end Keeps

theorem outputAllLoopKeeps {σ β : Type} (obs : σ → β) (out : σ → Ofpbuf → UInt16 → Except Halt σ)
    (keeps : ∀ dp b port, SatisfiesM (fun dp' => obs dp' = obs dp) (out dp b port)) (buffer : Ofpbuf)
    (inPort : UInt16) (flood : Bool) :
    ∀ (ps : List SwPort) (prev : Option UInt16) (dp : σ),
      SatisfiesM (fun dp' => obs dp' = obs dp) (outputAllLoop out buffer inPort flood ps prev dp)
  | [],prev,dp => by
    cases prev with
    | none => exact SatisfiesM.pure rfl
    | some port => exact keeps ..
  | p :: ps,prev,dp => by
    unfold outputAllLoop
    split_ifs
    · exact outputAllLoopKeeps obs out keeps buffer inPort flood ps prev dp
    · exact outputAllLoopKeeps obs out keeps buffer inPort flood ps prev dp
    · -- the pending port gets a copy, then the loop goes on from the next port
      dsimp only
      cases prev with
      | none =>
        rw [pure_bind]
        exact outputAllLoopKeeps obs out keeps buffer inPort flood ps _ dp
      | some port =>
        exact SatisfiesM.bind (keeps ..) fun dp' same =>
          (outputAllLoopKeeps obs out keeps buffer inPort flood ps _ dp').imp fun later => later.trans same

/- The packet path changes the datapath in three ways only: it sends, save_buffer fills a slot, and flow_used
touches an entry of the chain. -/
section PacketPath
variable {β : Type} (obs : Datapath → β) (sendKeeps : ∀ dp s, obs (dp.send s) = obs dp)
  (saveKeeps : ∀ dp b, obs (saveBuffer dp b).2 = obs dp) (touchKeeps : ∀ dp k n, obs (touchUsed dp k n) = obs dp)
  (retrieveKeeps : ∀ dp id, obs (retrieveBuffer dp id).2 = obs dp)
  (chainKeeps : ∀ (dp : Datapath) chain, obs { dp with chain } = obs dp)
include sendKeeps

theorem outputPacketKeeps (dp : Datapath) (buffer : Ofpbuf) (outPort : UInt16) (queueId : UInt32) :
    obs (outputPacket dp buffer outPort queueId) = obs dp := by
  unfold outputPacket
  split
  · split_ifs
    · exact sendKeeps ..
    · dsimp only
      split
      · exact sendKeeps ..
      · rfl
    · rfl
  · rfl

include saveKeeps in
theorem dpOutputControlKeeps (dp : Datapath) (buffer : Ofpbuf) (inPort : UInt16) (maxLen : Nat) (reason : UInt8) :
    SatisfiesM (fun dp' => obs dp' = obs dp) (dpOutputControl dp buffer inPort maxLen reason) := by
  have saved := saveKeeps dp buffer
  unfold dpOutputControl
  generalize saveBuffer dp buffer = r at saved
  obtain ⟨bufferId,dp'⟩ := r
  exact SatisfiesM.bind SatisfiesM.trivial fun _ _ => SatisfiesM.pure ((sendKeeps ..).trans saved)

include saveKeeps touchKeeps in
theorem packetPathKeeps : ∀ fuel : Nat,
    (∀ dp buffer inPort outPort queueId ignoreNoFwd, SatisfiesM (fun dp' => obs dp' = obs dp)
      (dpOutputPort fuel dp buffer inPort outPort queueId ignoreNoFwd)) ∧
    (∀ dp buffer inPort flood, SatisfiesM (fun dp' => obs dp' = obs dp) (outputAll fuel dp buffer inPort flood)) ∧
    (∀ dp buffer p, SatisfiesM (fun r : Option Ofpbuf × Datapath => obs r.2 = obs dp)
      (runFlowThroughTables fuel dp buffer p)) ∧
    (∀ dp buffer key acts actionsLen ignoreNoFwd, SatisfiesM (fun dp' => obs dp' = obs dp)
      (executeActions fuel dp buffer key acts actionsLen ignoreNoFwd)) ∧
    (∀ dp buffer inPort maxLen outPort queueId ignoreNoFwd, SatisfiesM (fun dp' => obs dp' = obs dp)
      (doOutput fuel dp buffer inPort maxLen outPort queueId ignoreNoFwd))
  | 0 => ⟨fun _ _ _ _ _ _ => by simp [dpOutputPort],fun _ _ _ _ => by simp [outputAll],
      fun _ _ _ => by simp [runFlowThroughTables],fun _ _ _ _ _ _ => by simp [executeActions],
      fun _ _ _ _ _ _ _ => by simp [doOutput]⟩
  | fuel + 1 => by
    obtain ⟨port,all,run,exec,out⟩ := packetPathKeeps fuel
    refine ⟨fun dp buffer inPort outPort queueId ignoreNoFwd => ?_,fun dp buffer inPort flood => ?_,
      fun dp buffer p => ?_,fun dp buffer key acts actionsLen ignoreNoFwd => ?_,
      fun dp buffer inPort maxLen outPort queueId ignoreNoFwd => ?_⟩
    · simp only [dpOutputPort]
      split_ifs
      · exact SatisfiesM.pure (outputPacketKeeps obs sendKeeps ..)
      · exact SatisfiesM.bind (run ..) fun _ same => SatisfiesM.pure same
      · exact all ..
      · exact all ..
      · exact dpOutputControlKeeps obs sendKeeps saveKeeps ..
      · exact SatisfiesM.pure rfl
      · exact SatisfiesM.pure (outputPacketKeeps obs sendKeeps ..)
    · simp only [outputAll]
      exact outputAllLoopKeeps obs _ (fun dp b port' => port ..) buffer inPort flood dp.ports none dp
    · simp only [runFlowThroughTables]
      generalize flowExtract buffer (inPortOf p) = extracted
      obtain ⟨frag,flow,buffer⟩ := extracted
      dsimp only
      split_ifs
      · exact SatisfiesM.pure rfl
      · exact SatisfiesM.pure rfl
      · split
        · -- the entry found runs its actions, after flow_used touched it
          exact SatisfiesM.bind (exec ..) fun _ same => SatisfiesM.pure (same.trans (touchKeeps ..))
        · exact SatisfiesM.pure rfl
    · simp only [executeActions]
      exact executeActionsWithKeeps obs _ acts (fun dp b i m p q => out ..) ..
    · simp only [doOutput]
      split_ifs
      · exact port ..
      · exact dpOutputControlKeeps obs sendKeeps saveKeeps ..

include saveKeeps touchKeeps retrieveKeeps in
theorem recvPacketOutKeeps (fuel : Nat) (dp : Datapath) (opo : OfpPacketOut) (keyWildcards : UInt32) :
    SatisfiesM (fun dp' => obs dp' = obs dp) (recvPacketOut fuel dp opo keyWildcards) := by
  have exec := (packetPathKeeps obs sendKeeps saveKeeps touchKeeps fuel).2.2.2.1
  have taken := retrieveKeeps dp opo.bufferId
  by_cases unbuffered : opo.bufferId = 0xffffffff
  · -- the packet is the message's own data
    simp only [recvPacketOut,unbuffered,if_true]
    split_ifs
    · exact SatisfiesM.pure rfl
    · exact SatisfiesM.pure (sendKeeps ..)
    · exact exec ..
  · -- the packet comes out of its slot, if the cookie still matches
    simp only [recvPacketOut,unbuffered,if_false]
    generalize retrieveBuffer dp opo.bufferId = r at taken
    obtain ⟨b,dp'⟩ := r
    split_ifs
    · exact SatisfiesM.pure rfl
    · cases b with
      | none => exact SatisfiesM.pure taken
      | some b =>
        dsimp only
        split_ifs
        · exact SatisfiesM.pure ((sendKeeps ..).trans taken)
        · exact (exec ..).imp fun later => later.trans taken

theorem sendFlowEndsKeep (reason : SwFlow → UInt8) : ∀ (flows : List SwFlow) (dp : Datapath),
    obs (flows.foldl (fun dp flow => sendFlowEnd dp flow (reason flow)) dp) = obs dp
  | [],_ => rfl
  | flow :: flows,dp => by
    rw [List.foldl_cons,sendFlowEndsKeep reason flows]
    unfold sendFlowEnd
    split
    · exact sendKeeps ..
    · rfl

include saveKeeps touchKeeps retrieveKeeps chainKeeps in
theorem recvFlowDpKeeps (env : Env) (fuel : Nat) (dp : Datapath) (ofm : OfpFlowMod) :
    SatisfiesM (fun dp' => obs dp' = obs dp) (recvFlowDp env fuel dp ofm) := by
  have exec := (packetPathKeeps obs sendKeeps saveKeeps touchKeeps fuel).2.2.2.1
  have base := (sendFlowEndsKeep obs sendKeeps (fun _ => ofprrDelete) (recvFlow dp.chain ofm dp.nowMsec).removed _).trans
    (chainKeeps dp (recvFlow dp.chain ofm dp.nowMsec).chain)
  unfold recvFlowDp
  dsimp only
  generalize List.foldl _ _ _ = dp1 at base
  split
  · -- a refused flow-mod: its error, then the buffered packet is discarded
    split_ifs
    · exact SatisfiesM.pure ((retrieveKeeps ..).trans ((sendKeeps ..).trans base))
    · exact SatisfiesM.pure ((sendKeeps ..).trans base)
  · split_ifs
    · have taken := retrieveKeeps dp1 ofm.bufferId
      generalize retrieveBuffer dp1 ofm.bufferId = r at taken
      obtain ⟨b,dp2⟩ := r
      cases b with
      | none => exact SatisfiesM.pure (taken.trans base)
      | some b => exact (exec ..).imp fun later => later.trans (taken.trans base)
    · exact SatisfiesM.pure base

end PacketPath
/-! Dispatch: the handler a message reaches, and what happens to the others. -/

/- The handler fwd_control_input runs on a message: its buffer holds header.length bytes, its version is
OFP_VERSION, and its type has a handler whose struct it is as long as. -/
def dispatch (msg : List UInt8) : Option Handler :=
  if (headerLength msg).toNat ≤ msg.length ∧ headerVersion msg = ofpVersion then
    match handlerOf (headerType msg) with
    | some (h,minSize) => if minSize ≤ msg.length then some h else none
    | none => none
  else none

section Dispatch
variable (env : Env) (fuel : Nat) (dp : Datapath) {msg : List UInt8}

theorem fwdControlInputDispatched {h : Handler} (reached : dispatch msg = some h) :
    fwdControlInput env fuel dp msg = runHandler env fuel dp msg h := by
  unfold dispatch at reached
  split_ifs at reached with checked
  obtain ⟨fits,version⟩ := checked
  split at reached
  · rename_i h' minSize known
    split_ifs at reached with enough
    cases reached
    simp only [fwdControlInput,known,version,Nat.not_lt.mpr fits,Nat.not_lt.mpr enough,if_false,ne_eq,
      not_true_eq_false]
  · cases reached

theorem handlerOfMin {type : UInt8} {h : Handler} {minSize : Nat} (known : handlerOf type = some (h,minSize)) :
    VconnStream.ofpHeaderLen ≤ minSize := by
  have every : (handlerOf type).all (fun p => decide (VconnStream.ofpHeaderLen ≤ p.2)) = true := by
    unfold handlerOf
    simp only [apply_ite (Option.all _),Option.all_some,Option.all_none,VconnStream.ofpHeaderLen,ofpSwitchConfigLen,
      ofpPacketOutLen,ofpFlowModLen,ofpPortModLen,ofpStatsRequestLen,ofpVendorHeaderLen]
    simp
  rw [known] at every
  simpa using every

theorem dispatchLong {h : Handler} (reached : dispatch msg = some h) : VconnStream.ofpHeaderLen ≤ msg.length := by
  unfold dispatch at reached
  split_ifs at reached
  split at reached
  · rename_i minSize known
    split_ifs at reached with enough
    exact (handlerOfMin known).trans enough
  · cases reached

theorem remoteRecvDispatched {h : Handler} (reached : dispatch msg = some h) :
    remoteRecv env fuel dp msg = runHandler env fuel dp msg h := by
  rw [remoteRecv,if_neg (Nat.not_lt.mpr (dispatchLong reached)),fwdControlInputDispatched env fuel dp reached]

theorem fwdControlInputRefused (refused : dispatch msg = none) :
    fwdControlInput env fuel dp msg = .ok (dp,none) ∨ fwdControlInput env fuel dp msg = .error .assertFailed ∨
      fwdControlInput env fuel dp msg = .ok (dp.send (.error ofpetBadRequest ofpbrcBadType),none) := by
  unfold dispatch at refused
  unfold fwdControlInput
  split_ifs with long other
  · exact .inl rfl
  · exact .inr (.inl rfl)
  · rw [if_pos ⟨Nat.not_lt.mp long,not_not.mp other⟩] at refused
    split
    · exact .inr (.inr rfl)
    · rename_i h minSize known
      rw [known] at refused
      split_ifs with short
      · exact .inl rfl
      · simp only [Nat.not_lt.mp short,if_true] at refused
        cases refused

end Dispatch

/-! The wire: a message read back from the bytes it was written as. -/

section Wire
open BigEndian

section Header
variable (m : Vconn.Msg)

theorem makeOpenflowXidMsg (type : UInt8) (xid : UInt32) (body : List UInt8) :
    makeOpenflowXid type xid body = msgBytes ⟨ofpVersion,type,xid,body⟩ := rfl

@[simp] theorem msgBytesLength : (msgBytes m).length = m.body.length + 8 := by
  simp only [msgBytes,List.length_append,List.length_cons,List.length_nil,lengthOfUInt16,lengthOfUInt32]
  omega

@[simp] theorem headerVersionMsg : headerVersion (msgBytes m) = m.version := rfl

@[simp] theorem headerTypeMsg : headerType (msgBytes m) = m.type := rfl

@[simp] theorem headerLengthMsg : headerLength (msgBytes m) = (m.body.length + 8).toUInt16 := by
  rw [headerLength,msgBytes,List.append_assoc]
  exact get16Field [m.version,m.type] _ _

@[simp] theorem headerXidMsg : headerXid (msgBytes m) = m.xid :=
  get32Field _ m.body m.xid

theorem headerLengthFits (fits : m.body.length + 8 < 65536) :
    (headerLength (msgBytes m)).toNat = (msgBytes m).length := by
  rw [headerLengthMsg,msgBytesLength,Nat.toUInt16,UInt16.toNat_ofNat']
  exact Nat.mod_eq_of_lt fits

theorem dispatchBare {type : UInt8} {h : Handler} (xid : UInt32)
    (known : handlerOf type = some (h,VconnStream.ofpHeaderLen)) : dispatch (makeOpenflowXid type xid []) = some h := by
  have fits := headerLengthFits ⟨ofpVersion,type,xid,[]⟩ (by simp)
  rw [makeOpenflowXidMsg]
  simp only [dispatch,fits,le_refl,headerVersionMsg,headerTypeMsg,known,msgBytesLength,List.length_nil,Nat.zero_add,
    VconnStream.ofpHeaderLen,and_self,if_true]

theorem get16Body (off : Nat) : get16 (msgBytes m) (off + 8) = get16 m.body off := by
  rw [Nat.add_comm]
  exact get16Append _ m.body off

theorem get32Body (off : Nat) : get32 (msgBytes m) (off + 8) = get32 m.body off := by
  rw [Nat.add_comm]
  exact get32Append _ m.body off

theorem get64Body (off : Nat) : get64 (msgBytes m) (off + 8) = get64 m.body off := by
  rw [Nat.add_comm]
  exact get64Append _ m.body off

theorem dropBody (off : Nat) : (msgBytes m).drop (off + 8) = m.body.drop off := rfl

theorem readOfpMatchAppend (pre bs : List UInt8) (off : Nat) :
    readOfpMatch (pre ++ bs) (pre.length + off) = readOfpMatch bs off := by
  simp only [readOfpMatch,Nat.add_assoc,get16Append,get32Append,
    List.getD_append_right _ _ _ _ (Nat.le_add_right _ _),Nat.add_sub_cancel_left]

theorem readOfpMatchBody (off : Nat) : readOfpMatch (msgBytes m) (off + 8) = readOfpMatch m.body off := by
  rw [Nat.add_comm]
  exact readOfpMatchAppend _ m.body off

end Header

section Match
variable (m : OfpMatch) (bs : List UInt8)

@[simp] theorem ofpMatchBytesLength : (ofpMatchBytes m).length = 40 := by
  simp [ofpMatchBytes]

theorem ethAddrToList (a : EthAddr) : a.toList = [a.get 0,a.get 1,a.get 2,a.get 3,a.get 4,a.get 5] := by
  apply List.ext_getElem (by rw [Vector.length_toList]; rfl)
  intro i h _
  simp only [Vector.length_toList] at h
  interval_cases i <;> rfl

theorem readOfpMatchBytes : readOfpMatch (ofpMatchBytes m ++ bs) 0 = m := by
  obtain ⟨wildcards,inPort,dlSrc,dlDst,dlVlan,dlVlanPcp,dlType,nwTos,nwProto,nwSrc,nwDst,tpSrc,tpDst⟩ := m
  simp only [readOfpMatch,ofpMatchBytes,Nat.zero_add,ofUInt16,ofUInt32,ethAddrToList,List.cons_append,
    List.nil_append,get16Cons,get32Cons,List.getD_cons_succ,List.getD_cons_zero,get16Bytes,get32Bytes,
    OfpMatch.mk.injEq,true_and,and_true]
  constructor
  all_goals
    ext i hi
    simp only [Vector.getElem_ofFn]
    interval_cases i <;> rfl

theorem get16AfterMatch (off : Nat) : get16 (ofpMatchBytes m ++ bs) (off + 40) = get16 bs off := by
  rw [Nat.add_comm,← ofpMatchBytesLength m]
  exact get16Append _ bs off

theorem get32AfterMatch (off : Nat) : get32 (ofpMatchBytes m ++ bs) (off + 40) = get32 bs off := by
  rw [Nat.add_comm,← ofpMatchBytesLength m]
  exact get32Append _ bs off

theorem get64AfterMatch (off : Nat) : get64 (ofpMatchBytes m ++ bs) (off + 40) = get64 bs off := by
  rw [Nat.add_comm,← ofpMatchBytesLength m]
  exact get64Append _ bs off

theorem dropAfterMatch (off : Nat) : (ofpMatchBytes m ++ bs).drop (off + 40) = bs.drop off := by
  rw [Nat.add_comm,← ofpMatchBytesLength m]
  exact List.drop_length_add_append off

end Match

section FlowMod
variable (xid : UInt32) (ofm : OfpFlowMod) (fits : ofpFlowModLen + ofm.actions.length < 65536)
include fits

theorem ofpFlowModBytesFits : (headerLength (ofpFlowModBytes xid ofm)).toNat = (ofpFlowModBytes xid ofm).length := by
  rw [ofpFlowModBytes,makeOpenflowXidMsg]
  apply headerLengthFits
  simp only [ofpFlowModLen] at fits
  simp
  omega

theorem readFlowModBytes : readFlowMod (ofpFlowModBytes xid ofm) = ofm := by
  rw [readFlowMod,ofpFlowModBytesFits xid ofm fits,List.take_length]
  obtain ⟨m,cookie,command,idle,hard,priority,bufferId,outPort,flags,actions⟩ := ofm
  simp only [ofpFlowModBytes,ofpFlowModLen,makeOpenflowXidMsg,get16Body,get32Body,get64Body,readOfpMatchBody,
    dropBody,List.append_assoc,readOfpMatchBytes,get16AfterMatch,get32AfterMatch,get64AfterMatch,dropAfterMatch]
  simp only [ofUInt64,ofUInt32,ofUInt16,List.cons_append,List.nil_append,get16Cons,get32Cons,get16Bytes,
    get32Bytes,get64Bytes,List.drop_succ_cons,List.drop_zero]

theorem dispatchFlowMod : dispatch (ofpFlowModBytes xid ofm) = some .flow := by
  have long : ofpFlowModLen ≤ (ofpFlowModBytes xid ofm).length := by
    simp [ofpFlowModBytes,makeOpenflowXidMsg,ofpFlowModLen]
    omega
  have known : handlerOf (headerType (ofpFlowModBytes xid ofm)) = some (.flow,ofpFlowModLen) := rfl
  have version : headerVersion (ofpFlowModBytes xid ofm) = ofpVersion := rfl
  simp only [dispatch,ofpFlowModBytesFits xid ofm fits,le_refl,version,and_self,if_true,known,long]

end FlowMod

end Wire

/-! The switch configuration: flags and miss_send_len. -/

/- What GET_CONFIG_REPLY reports. -/
def configOf (dp : Datapath) : UInt16 × UInt16 := (dp.flags,dp.missSendLen)

/- The fragment mode a SET_CONFIG leaves: NORMAL stays NORMAL, every other mode (REASM included) is DROP, and
no other bit is kept. -/
def fragMode (flags : UInt16) : UInt16 :=
  if flags &&& ofpcFragMask = ofpcFragNormal then ofpcFragNormal else ofpcFragDrop

/- The configuration a message sets, if it reaches recv_set_config. -/
def setConfigOf (msg : List UInt8) : Option (UInt16 × UInt16) :=
  if dispatch msg = some .setConfig then some (fragMode (BigEndian.get16 msg 8),BigEndian.get16 msg 10) else none

/- of_ext_recv_msg touches queues and the switch description only. -/
def Env.KeepsConfig (env : Env) : Prop :=
  ∀ dp msg, SatisfiesM (fun dp' => configOf dp' = configOf dp) (env.ofExtRecvMsg dp msg)

theorem fragMaskCases (flags : UInt16) :
    flags &&& ofpcFragMask = 0 ∨ flags &&& ofpcFragMask = 1 ∨ flags &&& ofpcFragMask = 2 ∨
      flags &&& ofpcFragMask = 3 := by
  have low : (flags &&& ofpcFragMask).toNat < 4 := by
    simp only [ofpcFragMask,UInt16.toNat_and,UInt16.reduceToNat]
    exact Nat.lt_succ_of_le Nat.and_le_right
  have cases : (flags &&& ofpcFragMask).toNat = 0 ∨ (flags &&& ofpcFragMask).toNat = 1 ∨
      (flags &&& ofpcFragMask).toNat = 2 ∨ (flags &&& ofpcFragMask).toNat = 3 := by omega
  rcases cases with c | c | c | c
  · exact .inl (UInt16.toNat_inj.mp c)
  · exact .inr (.inl (UInt16.toNat_inj.mp c))
  · exact .inr (.inr (.inl (UInt16.toNat_inj.mp c)))
  · exact .inr (.inr (.inr (UInt16.toNat_inj.mp c)))

theorem recvSetConfigConfig (dp : Datapath) (msg : List UInt8) :
    configOf (recvSetConfig dp msg) = (fragMode (BigEndian.get16 msg 8),BigEndian.get16 msg 10) := by
  simp only [configOf,recvSetConfig,fragMode,Prod.mk.injEq,and_true]
  have twice : BigEndian.get16 msg 8 &&& ofpcFragMask &&& ofpcFragMask = BigEndian.get16 msg 8 &&& ofpcFragMask := by
    rw [UInt16.and_assoc,UInt16.and_self]
  rw [twice]
  rcases fragMaskCases (BigEndian.get16 msg 8) with c | c | c | c <;> simp only [c] <;> decide

theorem fragModeCases (flags : UInt16) : fragMode flags = ofpcFragNormal ∨ fragMode flags = ofpcFragDrop := by
  unfold fragMode
  split_ifs
  · exact .inl rfl
  · exact .inr rfl

section Config
variable (env : Env) (fuel : Nat) (dp : Datapath) (msg : List UInt8)

theorem saveBufferConfig (dp : Datapath) (buffer : Ofpbuf) : configOf (saveBuffer dp buffer).2 = configOf dp := by
  unfold saveBuffer
  dsimp only
  split_ifs <;> rfl

theorem retrieveBufferConfig (dp : Datapath) (id : UInt32) : configOf (retrieveBuffer dp id).2 = configOf dp := by
  unfold retrieveBuffer
  dsimp only
  split_ifs <;> rfl

theorem runHandlerConfig (keeps : env.KeepsConfig) (h : Handler) (other : h ≠ .setConfig) :
    SatisfiesM (fun r : Datapath × Option StatsDump => configOf r.1 = configOf dp) (runHandler env fuel dp msg h) := by
  cases h with
  | barrierRequest => exact SatisfiesM.pure rfl
  | featuresRequest => exact SatisfiesM.pure rfl
  | getConfigRequest => exact SatisfiesM.pure rfl
  | setConfig => exact absurd rfl other
  | packetOut =>
    exact (recvPacketOutKeeps configOf (fun _ _ => rfl) saveBufferConfig (fun _ _ _ => rfl) retrieveBufferConfig
      fuel dp _ _).map fun same => same
  | flow =>
    exact (recvFlowDpKeeps configOf (fun _ _ => rfl) saveBufferConfig (fun _ _ _ => rfl) retrieveBufferConfig
      (fun _ _ => rfl) env fuel dp _).map fun same => same
  | portMod =>
    refine SatisfiesM.map ?_ fun same => same
    unfold updatePortFlags
    split
    · exact SatisfiesM.pure rfl
    · split_ifs
      · simp
      · exact SatisfiesM.pure rfl
      · exact SatisfiesM.pure rfl
      · exact SatisfiesM.pure rfl
  | statsRequest => exact SatisfiesM.pure rfl
  | echoRequest => exact SatisfiesM.pure rfl
  | echoReply => exact SatisfiesM.pure rfl
  | queueGetConfigRequest =>
    refine SatisfiesM.pure ?_
    unfold recvQueueGetConfigRequest
    dsimp only
    split_ifs
    · split
      · split_ifs <;> rfl
      · rfl
    · rfl
  | vendor =>
    refine SatisfiesM.map ?_ fun same => same
    unfold recvVendor
    dsimp only
    split_ifs
    · exact SatisfiesM.pure rfl
    · exact keeps ..
    · exact SatisfiesM.pure rfl

theorem fwdControlInputConfig (keeps : env.KeepsConfig) :
    SatisfiesM (fun r : Datapath × Option StatsDump => configOf r.1 = (setConfigOf msg).getD (configOf dp))
      (fwdControlInput env fuel dp msg) := by
  cases reached : dispatch msg with
  | none =>
    have unset : setConfigOf msg = none := by simp [setConfigOf,reached]
    rw [unset,Option.getD_none]
    rcases fwdControlInputRefused env fuel dp reached with same | aborts | badType
    · rw [same]; exact SatisfiesM.pure rfl
    · rw [aborts]; simp
    · rw [badType]; exact SatisfiesM.pure rfl
  | some h =>
    rw [fwdControlInputDispatched env fuel dp reached]
    by_cases set : h = .setConfig
    · subst set
      have sets : setConfigOf msg = some (fragMode (BigEndian.get16 msg 8),BigEndian.get16 msg 10) := by
        simp [setConfigOf,reached]
      rw [sets,Option.getD_some]
      exact SatisfiesM.pure (recvSetConfigConfig dp msg)
    · have unset : setConfigOf msg = none := by simp [setConfigOf,reached,set]
      rw [unset,Option.getD_none]
      exact runHandlerConfig env fuel dp msg keeps h set

theorem remoteRecvConfig (keeps : env.KeepsConfig) :
    SatisfiesM (fun r : Datapath × Option StatsDump => configOf r.1 = (setConfigOf msg).getD (configOf dp))
      (remoteRecv env fuel dp msg) := by
  unfold remoteRecv
  split_ifs with short
  · have unset : setConfigOf msg = none := by
      unfold setConfigOf
      split_ifs with set
      · exact absurd (dispatchLong set) (Nat.not_le.mpr short)
      · rfl
    rw [unset]
    exact SatisfiesM.pure rfl
  · exact fwdControlInputConfig env fuel dp msg keeps

end Config

end OpenFlow.ControlInput
