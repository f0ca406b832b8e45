import Mathlib
import OpenFlow.Controller
import OpenFlow.MacLearning

/-! In-band control (secchan/in-band.c). -/
namespace OpenFlow.InBand
open Actions Chain Datapath FlowMod Controller MacTable Tags

def ofpTcpPort : UInt16 := 6633
def ofpSslPort : UInt16 := 6633

/- The fields of struct in_band_data the callback reads: the MAC table, the in-band device's Ethernet address
(none without a device), and settings.max_idle as the uint16_t idle timeout make_add_flow takes. -/
structure InBandData where
  ml : MacLearning
  ofDevice : Option EthAddr
  maxIdle : UInt16

/- A message the callback hands to queue_tx. -/
inductive Queued where
  | flowMod (ofm : OfpFlowMod)
  | packetOut (opo : OfpPacketOut)

/- get_ofp_packet_eth_header: an OFPT_PACKET_IN message whose header.length leaves room for an Ethernet header
after the fixed part. -/
def getOfpPacketEthHeader (msg : List UInt8) : Bool :=
  msg.getD 1 0 == ofptPacketIn && decide (msg.length ≥ ofpPacketInDataOffset) &&
    decide ((BigEndian.get16 msg 2).toNat ≥ ofpPacketInDataOffset + ethHeaderLen)

/- The struct eth_header at opi->data. -/
def ethDst (opi : List UInt8) : EthAddr := ethAddrAt opi ofpPacketInDataOffset

def ethSrc (opi : List UInt8) : EthAddr := ethAddrAt opi (ofpPacketInDataOffset + 6)

def ethType (opi : List UInt8) : UInt16 := BigEndian.get16 opi (ofpPacketInDataOffset + 12)

def ethAddrIsBroadcast (ea : EthAddr) : Bool :=
  ea[(0 : Fin 6)] &&& ea[(1 : Fin 6)] &&& ea[(2 : Fin 6)] &&& ea[(3 : Fin 6)] &&& ea[(4 : Fin 6)] &&& ea[(5 : Fin 6)] == 0xff

/- is_controller_mac, with `controllerMac` what get_controller_mac returns: none while the controller's MAC is
unknown. -/
def isControllerMac (controllerMac : Option EthAddr) (dlAddr : EthAddr) : Bool :=
  match controllerMac with
  | some mac => mac == dlAddr
  | none => false

def inBandLearnMac (ml : MacLearning) (inPort : UInt16) (srcMac : EthAddr) (now : Int) (fresh : Tag) : MacLearning :=
  (macLearningLearn ml srcMac 0 inPort now fresh).1

/- Traffic to or from the controller's OpenFlow port, switched by hand. -/
def controllerTraffic (controllerMac : Option EthAddr) (opi : List UInt8) : Bool :=
  let flow := packetInFlow opi
  (isControllerMac controllerMac (ethDst opi) || isControllerMac controllerMac (ethSrc opi)) &&
    flow.dlType == ethTypeIp && flow.nwProto == ipTypeTcp &&
    (flow.tpSrc == ofpTcpPort || flow.tpSrc == ofpSslPort || flow.tpDst == ofpTcpPort || flow.tpDst == ofpSslPort)

def controllerArp (controllerMac : Option EthAddr) (opi : List UInt8) : Bool :=
  ethType opi == ethTypeArp && ethAddrIsBroadcast (ethDst opi) && isControllerMac controllerMac (ethSrc opi)

/- The decision tree of in_band_local_packet_cb: the int out_port and the table after the learning some
branches do; none where it returns false. -/
def inBandOutPort (ib : InBandData) (controllerMac : Option EthAddr) (now : Int) (fresh : Tag) (opi : List UInt8) :
    Option (Int × MacLearning) :=
  match ib.ofDevice with
  | none => none
  | some devMac =>
    if !getOfpPacketEthHeader opi then none
    else
      let inPort := packetInInPort opi
      if inPort = ofppLocal then some ((macLearningLookup ib.ml (ethDst opi) 0).toNat,ib.ml)
      else if ethDst opi = devMac then some (ofppLocal.toNat,inBandLearnMac ib.ml inPort (ethSrc opi) now fresh)
      else if controllerArp controllerMac opi then some (ofppFlood.toNat,ib.ml)
      else if controllerTraffic controllerMac opi then
        let ml := inBandLearnMac ib.ml inPort (ethSrc opi) now fresh
        some ((macLearningLookup ml (ethDst opi) 0).toNat,ml)
      else if controllerArp controllerMac opi then some (ofppFlood.toNat,ib.ml)
      else
        match controllerMac with
        | some mac =>
          if isControllerMac controllerMac (ethDst opi) && inPort == macLearningLookup ib.ml mac 0 then some (-1,ib.ml)
          else none
        | none => none

/- What the callback queues for a chosen port: a drop flow when it equals the input port, a flow to it (and
the packet, if unbuffered) when it is known, and the packet alone to OFPP_FLOOD. -/
def inBandMessages (ib : InBandData) (opi : List UInt8) (outPort : Int) : List Queued :=
  let inPort := packetInInPort opi
  let flow := packetInFlow opi
  let bufferId := packetInBufferId opi
  let payload := packetInFrame opi
  if (inPort.toNat : Int) = outPort then [.flowMod (makeAddFlow flow bufferId ib.maxIdle [])]
  else if outPort ≠ ofppFlood.toNat then
    .flowMod (makeAddSimpleFlow flow bufferId (UInt16.ofInt outPort) ib.maxIdle) ::
      (if bufferId = 0xffffffff then [.packetOut (makeUnbufferedPacketOut payload inPort (UInt16.ofInt outPort))]
       else [])
  else
    [.packetOut (if bufferId = 0xffffffff then makeUnbufferedPacketOut payload inPort (UInt16.ofInt outPort)
      else makeBufferedPacketOut bufferId inPort (UInt16.ofInt outPort))]

/- in_band_local_packet_cb: none when it returns false; otherwise the table and the messages queued towards
the datapath. -/
def inBandLocalPacketCb (ib : InBandData) (controllerMac : Option EthAddr) (now : Int) (fresh : Tag)
    (opi : List UInt8) : Option (MacLearning × List Queued) :=
  (inBandOutPort ib controllerMac now fresh opi).map fun decided => (decided.2,inBandMessages ib opi decided.1)

/- What the datapath checks of a queued message's actions: validate_actions on the flow-mod's own match, and
on a packet-out's actions for the key recv_packet_out extracts from the packet, which has the message's
in_port and wildcards that are never set. -/
def ActionsAccepted : Queued → Prop
  | .flowMod ofm => validateActions (flowExtractMatch ofm.ofpMatch) ofm.actions ofm.actions.length = actValidationOk
  | .packetOut opo => ∀ key : SwFlowKey, key.flow.inPort = opo.inPort →
      validateActions key (opo.body.take opo.actionsLen.toNat) opo.actionsLen.toNat = actValidationOk

section Accepted

end Accepted

section Drop

theorem simpleFlowToNoneRejected (flow : Flow) (bufferId : UInt32) (idleTimeout : UInt16) (chain : SwChain) (now : UInt64) :
    recvFlow chain (makeAddSimpleFlow flow bufferId ofppNone idleTimeout) now = rejected chain ofpetBadAction ofpbacBadOutPort := by
  have maxLen : (if ofppNone = ofppController then (0xffff : UInt16) else 0) = 0 := by decide
  have refused : ∀ key : SwFlowKey, validateActions key (ofpActionOutput ofppNone 0) 8 = ofpbacBadOutPort := by
    intro key
    rw [validateSingleOutput,validateOutputOfAction]
    simp
  have notOk : ofpbacBadOutPort ≠ actValidationOk := by decide
  simp only [recvFlow,makeAddSimpleFlow,makeAddFlow,makeFlowMod,maxLen,addFlow,lengthOfpActionOutput,refused,notOk,
    if_true,ne_eq,not_false_eq_true]

theorem dropMessages (ib : InBandData) (opi : List UInt8) :
    ∃ rest, inBandMessages ib opi (-1) =
      .flowMod (makeAddSimpleFlow (packetInFlow opi) (packetInBufferId opi) ofppNone ib.maxIdle) :: rest := by
  have notIn : ((packetInInPort opi).toNat : Int) ≠ -1 := by omega
  have notFlood : (-1 : Int) ≠ ofppFlood.toNat := by omega
  have narrowed : UInt16.ofInt (-1) = ofppNone := by decide
  simp only [inBandMessages,notIn,notFlood,narrowed,if_false,ne_eq,not_false_eq_true,if_true]
  exact ⟨_,rfl⟩

theorem dropFlowRejected (ib : InBandData) (controllerMac : Option EthAddr) (now : Int) (fresh : Tag) (opi : List UInt8)
    (drop : (inBandOutPort ib controllerMac now fresh opi).map Prod.fst = some (-1)) :
    ∃ ml rest, inBandLocalPacketCb ib controllerMac now fresh opi =
        some (ml,.flowMod (makeAddSimpleFlow (packetInFlow opi) (packetInBufferId opi) ofppNone ib.maxIdle) :: rest) ∧
      ∀ chain t, recvFlow chain (makeAddSimpleFlow (packetInFlow opi) (packetInBufferId opi) ofppNone ib.maxIdle) t =
        rejected chain ofpetBadAction ofpbacBadOutPort := by
  obtain ⟨⟨outPort,ml⟩,decided,dropped⟩ := Option.map_eq_some_iff.mp drop
  obtain ⟨rest,queued⟩ := dropMessages ib opi
  refine ⟨ml,rest,?_,fun chain t => simpleFlowToNoneRejected _ _ _ chain t⟩
  simp only at dropped
  subst dropped
  rw [inBandLocalPacketCb,decided,Option.map_some,queued]

/- The controller at 00:01:02:03:04:05, learned on port 1, and a non-IP frame for it arriving on port 1,
unbuffered. -/
def controllerLearned : InBandData :=
  ⟨inBandLearnMac (macLearningCreate 0) 1 #v[0,1,2,3,4,5] 0 ⟨3,7,by decide⟩,some #v[0,0,0,0,0,9],60⟩

def controllerPortPacketIn : List UInt8 :=
  [1,10,0,78,0,0,0,0,0xff,0xff,0xff,0xff,0,60,0,1,0,0] ++ [0,1,2,3,4,5,0,0,0,0,0,7,0x09,0x00] ++ List.replicate 46 0

theorem controllerPortDropRejected :
    (inBandOutPort controllerLearned (some #v[0,1,2,3,4,5]) 0 ⟨3,7,by decide⟩ controllerPortPacketIn).map Prod.fst =
        some (-1) ∧
      ∀ chain t, recvFlow chain (makeAddSimpleFlow (packetInFlow controllerPortPacketIn)
        (packetInBufferId controllerPortPacketIn) ofppNone 60) t = rejected chain ofpetBadAction ofpbacBadOutPort := by
  have drop : (inBandOutPort controllerLearned (some #v[0,1,2,3,4,5]) 0 ⟨3,7,by decide⟩ controllerPortPacketIn).map
      Prod.fst = some (-1) := by
    decide +kernel
  obtain ⟨_,_,_,rejected⟩ := dropFlowRejected controllerLearned (some #v[0,1,2,3,4,5]) 0 ⟨3,7,by decide⟩
    controllerPortPacketIn drop
  exact ⟨drop,rejected⟩

end Drop

end OpenFlow.InBand
