import OpenFlow.Execute
import OpenFlow.FlowMod

/-! The packet path of the userspace datapath (udatapath/datapath.c): ports, the saved-packet buffers, output
to a port, to all ports and to the controller, the flow-table lookup that runs a packet's actions, and the
OpenFlow messages that change ports or inject packets. -/
namespace OpenFlow.Datapath
open Actions Chain Execute FlowMod

/- enum ofp_port_config -/
def ofppcPortDown : UInt32 := (1 : UInt32) <<< 0
def ofppcNoStp : UInt32 := (1 : UInt32) <<< 1
def ofppcNoRecv : UInt32 := (1 : UInt32) <<< 2
def ofppcNoRecvStp : UInt32 := (1 : UInt32) <<< 3
def ofppcNoFlood : UInt32 := (1 : UInt32) <<< 4
def ofppcNoFwd : UInt32 := (1 : UInt32) <<< 5
def ofppcNoPacketIn : UInt32 := (1 : UInt32) <<< 6

def ofpcFragNormal : UInt16 := 0
def ofpcFragDrop : UInt16 := 1
def ofpcFragMask : UInt16 := 3

def ofprNoMatch : UInt8 := 0
def ofprAction : UInt8 := 1

def ofpVersion : UInt8 := 1
def ofptPacketIn : UInt8 := 10
def ofpDefaultMissSendLen : UInt16 := 128

/- offsetof(struct ofp_packet_in, data) and sizeof(struct ofp_packet_out) -/
def ofpPacketInDataOffset : Nat := 18
def ofpPacketOutLen : Nat := 16

def dpMaxPorts : UInt16 := 255

/- lib/stp.c -/
def stpEthAddr : EthAddr := #v[0x01,0x80,0xC2,0x00,0x00,0x01]

structure SwQueue where
  queueId : UInt32
  classId : UInt16
  deriving DecidableEq, Repr

/- struct sw_port; `netdev` says whether a network device is attached. -/
structure SwPort where
  portNo : UInt16
  config : UInt32
  netdev : Bool
  hwAddr : EthAddr
  queues : List SwQueue
  deriving DecidableEq, Repr

/- A slot of dp->ports[] that no port uses: calloc'd, so port 0 with no device. -/
def unusedPort : SwPort := ⟨0,0,false,Vector.replicate 6 0,[]⟩

/- PKT_BUFFER_BITS, PKT_COOKIE_BITS, OVERWRITE_SECS -/
def pktBufferBits : UInt32 := 8
def pktBufferMask : UInt32 := ((1 : UInt32) <<< pktBufferBits) - 1
def pktCookieBits : UInt32 := 32 - pktBufferBits
def overwriteSecs : UInt64 := 1

structure PacketBuffer where
  buffer : Option Ofpbuf
  cookie : UInt32
  timeout : UInt64

/- What leaves the switch: a frame sent on a port's device with a traffic class, an OpenFlow message to the
controllers, or an error reply. -/
inductive Sent where
  | netdev (portNo classId : UInt16) (frame : List UInt8)
  | controller (msg : List UInt8)
  | error (type code : UInt16)
  deriving DecidableEq, Repr

/- The datapath and the file-static packet buffers of datapath.c, with the clock as time_now() (seconds) and
time_msec() read it. -/
structure Datapath where
  chain : SwChain
  ports : List SwPort
  flags : UInt16
  missSendLen : UInt16
  buffers : Nat → PacketBuffer
  bufferIdx : UInt32
  now : UInt64
  nowMsec : UInt64
  sent : List Sent

def Datapath.send (dp : Datapath) (s : Sent) : Datapath := { dp with sent := dp.sent ++ [s] }

/- Ports below DP_MAX_PORTS are slots of an array, used or not; OFPP_LOCAL is the local port if there is one;
no other number names a port. -/
def dpLookupPort (dp : Datapath) (portNo : UInt16) : Option SwPort :=
  if portNo < dpMaxPorts then some ((dp.ports.find? (·.portNo == portNo)).getD unusedPort)
  else if portNo = ofppLocal then dp.ports.find? (·.portNo == portNo)
  else none

def dpLookupQueue (p : SwPort) (queueId : UInt32) : Option SwQueue :=
  p.queues.find? (·.queueId == queueId)

/- save_buffer: the next slot, unless the packet there is under a second old. -/
def saveBuffer (dp : Datapath) (buffer : Ofpbuf) : UInt32 × Datapath :=
  let idx := (dp.bufferIdx + 1) &&& pktBufferMask
  let dp := { dp with bufferIdx := idx }
  let p := dp.buffers idx.toNat
  if p.buffer.isSome ∧ dp.now < p.timeout then (0xffffffff,dp)
  else
    let cookie := if p.cookie + 1 ≥ ((1 : UInt32) <<< pktCookieBits) - 1 then 0 else p.cookie + 1
    let p : PacketBuffer := ⟨some (ofpbufClone buffer),cookie,dp.now + overwriteSecs⟩
    (idx ||| (cookie <<< pktBufferBits),{ dp with buffers := Function.update dp.buffers idx.toNat p })

def retrieveBuffer (dp : Datapath) (id : UInt32) : Option Ofpbuf × Datapath :=
  let i := (id &&& pktBufferMask).toNat
  let p := dp.buffers i
  if p.cookie = id >>> pktBufferBits then
    (p.buffer,{ dp with buffers := Function.update dp.buffers i { p with buffer := none } })
  else (none,dp)

def discardBuffer (dp : Datapath) (id : UInt32) : Datapath := (retrieveBuffer dp id).2

/- output_packet: a port that is up sends on its device, to the default class or to the class of an existing
queue; anything else drops the packet. -/
def outputPacket (dp : Datapath) (buffer : Ofpbuf) (outPort : UInt16) (queueId : UInt32) : Datapath :=
  match dpLookupPort dp outPort with
  | some p =>
    if p.netdev ∧ p.config &&& ofppcPortDown = 0 then
      let classId := if queueId = 0 then some 0 else (dpLookupQueue p queueId).map (·.classId)
      match classId with
      | some classId => dp.send (.netdev p.portNo classId buffer.contents)
      | none => dp
    else dp
  | none => dp

/- dp_output_control: the packet is saved, cut to `maxLen` if it could be, and sent up behind an ofp_packet_in
header pushed in front of it. -/
def dpOutputControl (dp : Datapath) (buffer : Ofpbuf) (inPort : UInt16) (maxLen : Nat) (reason : UInt8) :
    Except Halt Datapath := do
  let (bufferId,dp) := saveBuffer dp buffer
  let totalLen := buffer.size
  let buffer := if bufferId ≠ 0xffffffff ∧ buffer.size > maxLen then { buffer with size := maxLen } else buffer
  let buffer ← pushUninit buffer ofpPacketInDataOffset
  let header := [ofpVersion,ofptPacketIn] ++ BigEndian.ofUInt16 buffer.size.toUInt16 ++ BigEndian.ofUInt32 0 ++
    BigEndian.ofUInt32 bufferId ++ BigEndian.ofUInt16 totalLen.toUInt16 ++ BigEndian.ofUInt16 inPort ++ [reason,0]
  pure (dp.send (.controller (buffer.write buffer.data header).contents))

/- The loop of output_all over the port list: every port but the input port (and, when flooding, those with
OFPPC_NO_FLOOD) gets a copy, the last one the buffer itself. -/
def outputAllLoop {σ : Type} (out : σ → Ofpbuf → UInt16 → Except Halt σ) (buffer : Ofpbuf) (inPort : UInt16)
    (flood : Bool) : List SwPort → Option UInt16 → σ → Except Halt σ
  | [], prev, dp =>
    match prev with
    | some port => out dp buffer port
    | none => pure dp
  | p :: ps, prev, dp =>
    if p.portNo = inPort then outputAllLoop out buffer inPort flood ps prev dp
    else if flood ∧ p.config &&& ofppcNoFlood ≠ 0 then outputAllLoop out buffer inPort flood ps prev dp
    else do
      let dp ← match prev with
        | some port => out dp (ofpbufClone buffer) port
        | none => pure dp
      outputAllLoop out buffer inPort flood ps (some p.portNo) dp

/- The key run_flow_through_tables looks up: its wildcards are 0 and its masks are never set, and lookups read
neither. -/
def exactKey (flow : Flow) : SwFlowKey := ⟨flow,0,0,0⟩

/- Frames to the spanning-tree address are held back by OFPPC_NO_RECV_STP, all others by OFPPC_NO_RECV. -/
def recvBlocked (p : SwPort) (flow : Flow) : Bool :=
  p.config &&& (ofppcNoRecv ||| ofppcNoRecvStp) ≠ 0 &&
    p.config &&& (if flow.dlDst ≠ stpEthAddr then ofppcNoRecv else ofppcNoRecvStp) ≠ 0

/- The port number flow_extract records: the port's, or OFPP_NONE without one. -/
def inPortOf (p : Option SwPort) : UInt16 :=
  match p with
  | some p => p.portNo
  | none => ofppNone

/- flow_used on the entry the lookup of `key` found, for a packet of `size` bytes. -/
def touchUsed (dp : Datapath) (key : SwFlowKey) (size : Nat) : Datapath :=
  { dp with chain := { dp.chain with tables := touchFirst dp.chain.tables key (flowUsed dp.nowMsec size) } }

mutual

/- dp_output_port; `ignoreNoFwd` is passed down but, as in the source, unused. -/
def dpOutputPort : Nat → Datapath → Ofpbuf → UInt16 → UInt16 → UInt32 → Bool → Except Halt Datapath
  | 0, _, _, _, _, _, _ => .error .outOfFuel
  | fuel + 1, dp, buffer, inPort, outPort, queueId, _ignoreNoFwd =>
    if outPort = ofppInPort then pure (outputPacket dp buffer inPort queueId)
    else if outPort = ofppTable then do
      let (_,dp) ← runFlowThroughTables fuel dp buffer (dpLookupPort dp inPort)
      pure dp
    else if outPort = ofppFlood then outputAll fuel dp buffer inPort true
    else if outPort = ofppAll then outputAll fuel dp buffer inPort false
    else if outPort = ofppController then dpOutputControl dp buffer inPort 0xffff ofprAction
    else if inPort = outPort then pure dp
    else pure (outputPacket dp buffer outPort queueId)

def outputAll : Nat → Datapath → Ofpbuf → UInt16 → Bool → Except Halt Datapath
  | 0, _, _, _, _ => .error .outOfFuel
  | fuel + 1, dp, buffer, inPort, flood =>
    outputAllLoop (fun dp b port => dpOutputPort fuel dp b inPort port 0 false) buffer inPort flood dp.ports none dp

/- Returns the buffer back when no flow matches (-ESRCH), `none` when the packet was consumed: dropped as a
fragment or by the port's config, or run through the actions of the matching entry, which flow_used updates
first. -/
def runFlowThroughTables : Nat → Datapath → Ofpbuf → Option SwPort → Except Halt (Option Ofpbuf × Datapath)
  | 0, _, _, _ => .error .outOfFuel
  | fuel + 1, dp, buffer, p =>
    let (frag,flow,buffer) := flowExtract buffer (inPortOf p)
    let key := exactKey flow
    if frag ∧ dp.flags &&& ofpcFragMask = ofpcFragDrop then pure (none,dp)
    else if (p.map fun p => recvBlocked p flow) = some true then pure (none,dp)
    else match chainLookup dp.chain key false with
      | some entry => do
        let dp ← executeActions fuel (touchUsed dp key buffer.size) buffer key entry.actions entry.actions.length false
        pure (none,dp)
      | none => pure (some buffer,dp)

def executeActions : Nat → Datapath → Ofpbuf → SwFlowKey → List UInt8 → Nat → Bool → Except Halt Datapath
  | 0, _, _, _, _, _, _ => .error .outOfFuel
  | fuel + 1, dp, buffer, key, acts, actionsLen, ignoreNoFwd =>
    executeActionsWith (fun dp b inPort maxLen port queue => doOutput fuel dp b inPort maxLen port queue ignoreNoFwd)
      acts dp buffer key actionsLen

def doOutput : Nat → Datapath → Ofpbuf → UInt16 → UInt16 → UInt16 → UInt32 → Bool → Except Halt Datapath
  | 0, _, _, _, _, _, _, _ => .error .outOfFuel
  | fuel + 1, dp, buffer, inPort, maxLen, outPort, queueId, ignoreNoFwd =>
    if outPort ≠ ofppController then dpOutputPort fuel dp buffer inPort outPort queueId ignoreNoFwd
    else dpOutputControl dp buffer inPort maxLen.toNat ofprAction

end

section Spec
variable {fuel : Nat} {dp : Datapath} {buffer : Ofpbuf} {inPort maxLen outPort : UInt16} {queueId : UInt32}
  {ignoreNoFwd : Bool}

theorem doOutputToPort (toPort : outPort ≠ ofppController) :
    doOutput (fuel + 1) dp buffer inPort maxLen outPort queueId ignoreNoFwd =
      dpOutputPort fuel dp buffer inPort outPort queueId ignoreNoFwd := by
  simp [doOutput,toPort]

theorem doOutputToController :
    doOutput (fuel + 1) dp buffer inPort maxLen ofppController queueId ignoreNoFwd =
      dpOutputControl dp buffer inPort maxLen.toNat ofprAction := by
  simp [doOutput]

theorem dpOutputPortTable :
    dpOutputPort (fuel + 1) dp buffer inPort ofppTable queueId ignoreNoFwd =
      (runFlowThroughTables fuel dp buffer (dpLookupPort dp inPort)).bind fun r => pure r.2 := by
  simp only [dpOutputPort,show ofppTable ≠ ofppInPort by decide,if_false,if_true]
  rfl

theorem dpOutputControlNoRoom {reason : UInt8} {maxLen : Nat} (short : buffer.headroom < ofpPacketInDataOffset) :
    dpOutputControl dp buffer inPort maxLen reason = .error .assertFailed := by
  have noRoom : ∀ b : Ofpbuf, b.data = buffer.data → ofpbufPushUninit b ofpPacketInDataOffset = none := by
    intro b same
    have tooLow : ¬ ofpPacketInDataOffset ≤ b.headroom := by
      simp only [Ofpbuf.headroom] at short ⊢
      omega
    simp [ofpbufPushUninit,tooLow]
  simp only [dpOutputControl,pushUninit]
  rw [noRoom _ (by split <;> rfl)]
  rfl

section Lookup
variable {p : Option SwPort} {frag : Bool} {flow : Flow} {extracted : Ofpbuf}
  (extract : flowExtract buffer (inPortOf p) = (frag,flow,extracted))
  (kept : ¬(frag = true ∧ dp.flags &&& ofpcFragMask = ofpcFragDrop))
  (admitted : (p.map fun p => recvBlocked p flow) ≠ some true)
include extract kept admitted

theorem runFlowThroughTablesHit {entry : SwFlow} (hit : chainLookup dp.chain (exactKey flow) false = some entry) :
    runFlowThroughTables (fuel + 1) dp buffer p =
      (executeActions fuel (touchUsed dp (exactKey flow) extracted.size) extracted (exactKey flow) entry.actions
        entry.actions.length false).bind fun dp => pure (none,dp) := by
  simp only [runFlowThroughTables,extract,kept,if_false,admitted,hit]
  rfl

end Lookup
end Spec

/- fwd_port_input: a packet no flow matches goes up to the controller. -/
def fwdPortInput (fuel : Nat) (dp : Datapath) (buffer : Ofpbuf) (p : SwPort) : Except Halt Datapath := do
  let (miss,dp) ← runFlowThroughTables fuel dp buffer (some p)
  match miss with
  | some buffer => dpOutputControl dp buffer p.portNo dp.missSendLen.toNat ofprNoMatch
  | none => pure dp

/- The buffer dp_run receives a frame into: 128 + 2 bytes of headroom, then room for a tagged Ethernet header
and an MTU of payload. -/
def dpRunHeadroom : Nat := 128 + 2

def receiveBuffer (mtu : Nat) (frame : List UInt8) : Ofpbuf :=
  let b := ofpbufNew (dpRunHeadroom + ethHeaderLen + vlanHeaderLen + mtu)
  { b.write dpRunHeadroom frame with data := dpRunHeadroom,size := frame.length }

/- One frame that dp_run receives on the port numbered `portNo` of the port list. -/
def portInput (fuel : Nat) (dp : Datapath) (portNo : UInt16) (mtu : Nat) (frame : List UInt8) : Except Halt Datapath :=
  match dp.ports.find? (·.portNo == portNo) with
  | some p => fwdPortInput fuel dp (receiveBuffer mtu frame) p
  | none => pure dp

/- struct ofp_port_mod -/
structure OfpPortMod where
  portNo : UInt16
  hwAddr : EthAddr
  config : UInt32
  mask : UInt32

/- update_port_flags: the bits of `mask` take their values from `config`, for the port whose device still has
the address the controller saw. -/
def updatePortFlags (dp : Datapath) (opm : OfpPortMod) : Except Halt Datapath :=
  match dpLookupPort dp opm.portNo with
  | none => pure dp
  | some p =>
    if !p.netdev then .error .nullDeref
    else if opm.hwAddr ≠ p.hwAddr then pure dp
    else if opm.mask ≠ 0 then
      let config := (p.config &&& ~~~opm.mask) ||| (opm.config &&& opm.mask)
      pure { dp with ports := dp.ports.map fun q => if q.portNo = p.portNo then { q with config } else q }
    else pure dp

/- struct ofp_packet_out: `length` is header.length; `body` is what follows the fixed part, the actions and
then the frame. -/
structure OfpPacketOut where
  length : UInt16
  bufferId : UInt32
  inPort : UInt16
  actionsLen : UInt16
  body : List UInt8

/- recv_packet_out. -/
def recvPacketOut (fuel : Nat) (dp : Datapath) (opo : OfpPacketOut) (keyWildcards : UInt32) :
    Except Halt Datapath := do
  let actionsLen := opo.actionsLen.toNat
  if actionsLen > opo.length.toNat - ofpPacketOutLen then pure dp
  else
    let actions := opo.body.take actionsLen
    let (buffer,dp) :=
      if opo.bufferId = 0xffffffff then
        let dataLen := opo.length.toNat - ofpPacketOutLen - actionsLen
        (some (ofpbufPut (ofpbufNew dataLen) ((opo.body.drop actionsLen).take dataLen)),dp)
      else retrieveBuffer dp opo.bufferId
    match buffer with
    | none => pure dp
    | some buffer =>
      let (_,flow,buffer) := flowExtract buffer opo.inPort
      let key : SwFlowKey := ⟨flow,keyWildcards,0,0⟩
      let vCode := validateActions key actions actionsLen
      if vCode ≠ actValidationOk then pure (dp.send (.error ofpetBadAction vCode))
      else executeActions fuel dp buffer key actions actionsLen true

end OpenFlow.Datapath
