import OpenFlow.Rewrite

/-! The controller side of flow setup: the flow-mod builders of lib/vconn.c (make_flow_mod, make_add_flow,
make_add_simple_flow) and the flow the learning switch reads out of a packet-in (process_packet_in,
lib/learning-switch.c). -/
namespace OpenFlow.Controller
open Actions Chain FlowMod Datapath Forwarding Rewrite

/- make_flow_mod: a zeroed struct ofp_flow_mod with the command and an exact match on the fields of `flow` it
copies; the caller puts `actions` after it. -/
def makeFlowMod (command : UInt16) (flow : Flow) (actions : List UInt8) : OfpFlowMod :=
  { ofpMatch :=
      { wildcards := 0
        inPort := flow.inPort
        dlSrc := flow.dlSrc
        dlDst := flow.dlDst
        dlVlan := flow.dlVlan
        dlVlanPcp := flow.dlVlanPcp
        dlType := flow.dlType
        nwTos := 0
        nwProto := flow.nwProto
        nwSrc := flow.nwSrc
        nwDst := flow.nwDst
        tpSrc := flow.tpSrc
        tpDst := flow.tpDst }
    cookie := 0
    command
    idleTimeout := 0
    hardTimeout := 0
    priority := 0
    bufferId := 0
    outPort := 0
    flags := 0
    actions }

def makeAddFlow (flow : Flow) (bufferId : UInt32) (idleTimeout : UInt16) (actions : List UInt8) : OfpFlowMod :=
  { makeFlowMod ofpfcAdd flow actions with idleTimeout,hardTimeout := ofpFlowPermanent,bufferId }

/- One output action; to the controller it asks for the whole packet. -/
def makeAddSimpleFlow (flow : Flow) (bufferId : UInt32) (outPort idleTimeout : UInt16) : OfpFlowMod :=
  makeAddFlow flow bufferId idleTimeout (ofpActionOutput outPort (if outPort = ofppController then 0xffff else 0))

/- make_unbuffered_packet_out and make_buffered_packet_out: one output action, and after it, for the
unbuffered one, the packet itself; header.length is the message's size as a uint16_t. -/
def makeUnbufferedPacketOut (packet : Ofpbuf) (inPort outPort : UInt16) : OfpPacketOut :=
  { length := (ofpPacketOutLen + 8 + packet.size).toUInt16
    bufferId := 0xffffffff
    inPort
    actionsLen := 8
    body := ofpActionOutput outPort 0 ++ packet.contents }

def makeBufferedPacketOut (bufferId : UInt32) (inPort outPort : UInt16) : OfpPacketOut :=
  { length := (ofpPacketOutLen + 8).toUInt16
    bufferId
    inPort
    actionsLen := 8
    body := ofpActionOutput outPort 0 }

/- struct ofp_packet_in: buffer_id at offset 8, in_port at 14. -/
def packetInBufferId (opi : List UInt8) : UInt32 := BigEndian.get32 opi 8

def packetInInPort (opi : List UInt8) : UInt16 := BigEndian.get16 opi 14

/- The ofpbuf process_packet_in wraps around the frame: the bytes from offsetof(struct ofp_packet_in, data),
header.length minus that many long. -/
def packetInFrame (opi : List UInt8) : Ofpbuf :=
  ⟨opi.drop ofpPacketInDataOffset,0,(BigEndian.get16 opi 2).toNat - ofpPacketInDataOffset,none,none,none,none⟩

def packetInFlow (opi : List UInt8) : Flow := (flowExtract (packetInFrame opi) (packetInInPort opi)).2.1

section Match
variable {flow : Flow}

end Match

/- The packet-in for `udpFrame tos 0 0 ipCsum 1234 0` from port 1, saved as buffer 0x101: version,
OFPT_PACKET_IN, length 78, xid 0, buffer_id, total_len 60, in_port 1, OFPR_NO_MATCH and the pad byte, then the
frame. -/
def udpPacketIn (tos : UInt8) (ipCsum : UInt16) : List UInt8 :=
  [1,10,0,78,0,0,0,0,0,0,1,1,0,60,0,1,0,0] ++ udpFrame tos 0 0 ipCsum 1234 0

/- What a learning switch without MAC learning (a hub) and with max_idle 60 queues for a packet-in:
make_add_simple_flow to OFPP_FLOOD. -/
def hubAddFlow (opi : List UInt8) : OfpFlowMod :=
  makeAddSimpleFlow (packetInFlow opi) (packetInBufferId opi) ofppFlood 60

/- What the switch sends for a frame received on port 1 when its chain is `chain`. -/
def sentWith (chain : SwChain) (frame : List UInt8) : Option (List Sent) :=
  (portInput 8 (labDatapath chain) 1 1500 frame).toOption.map (·.sent)

theorem hubFlowMissesTosPacket :
    sentWith chainCreate (udpFrame 0x10 0 0 0x66bf 1234 0) = some [.controller (udpPacketIn 0x10 0x66bf)] ∧
    (recvFlow chainCreate (hubAddFlow (udpPacketIn 0x10 0x66bf)) 0).error = none ∧
    sentWith (recvFlow chainCreate (hubAddFlow (udpPacketIn 0x10 0x66bf)) 0).chain (udpFrame 0x10 0 0 0x66bf 1234 0) =
      some [.controller (udpPacketIn 0x10 0x66bf)] ∧
    sentWith (recvFlow chainCreate (hubAddFlow (udpPacketIn 0 0x66cf)) 0).chain (udpFrame 0 0 0 0x66cf 1234 0) =
      some [.netdev 2 0 (udpFrame 0 0 0 0x66cf 1234 0)] := by
  refine ⟨by decide +kernel,by decide +kernel,by decide +kernel,by decide +kernel⟩

end OpenFlow.Controller
