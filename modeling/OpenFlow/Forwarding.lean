import OpenFlow.Datapath
import OpenFlow.ChainRules

/-! What the packet path does with the entries flow-mods install and with the ports port-mods configure: an
entry that outputs to OFPP_TABLE sends every packet it matches back to the table forever, port configuration
bits that the source never reads, and an output to the controller that asserts on a copy of the packet. -/
namespace OpenFlow.Forwarding
open Actions Chain Execute FlowMod Datapath ChainRules

/- A port of the switch: device attached, every config bit clear. -/
def labPort (n : UInt16) : SwPort := ⟨n,0,true,#v[0,0,0,0,0,n.toUInt8],[]⟩

def labDatapath (chain : SwChain) : Datapath :=
  ⟨chain,[labPort 1,labPort 2],0,ofpDefaultMissSendLen,fun _ => ⟨none,0,0⟩,0,0,0,[]⟩

/- A minimal Ethernet frame of a type that is neither IP nor ARP. -/
def labFrame : List UInt8 := [0,0,0,0,0,2,0,0,0,0,0,1,0x09,0x06] ++ List.replicate 46 0

/- An entry that matches every packet, with the given actions. -/
def labFlowMod (actions : List UInt8) : OfpFlowMod := { flowModOf ofpfcAdd matchAll 0x8000 with actions }

/- Frames with the same bytes at the same place: flow_extract cannot tell them apart. -/
def SameFrame (b frame : Ofpbuf) : Prop := b.mem = frame.mem ∧ b.data = frame.data ∧ b.size = frame.size

/- What makes a packet come back to the table: it is admitted on its port, and the entry it matches outputs to
OFPP_TABLE. -/
structure Reinjects (dp : Datapath) (frame : Ofpbuf) (p : SwPort) : Prop where
  port : dpLookupPort dp p.portNo = some p
  kept : ¬((flowExtract frame p.portNo).1 = true ∧ dp.flags &&& ofpcFragMask = ofpcFragDrop)
  admitted : recvBlocked p (flowExtract frame p.portNo).2.1 = false
  loops : ∃ entry maxLen, chainLookup dp.chain (exactKey (flowExtract frame p.portNo).2.1) false = some entry ∧
    entry.actions = ofpActionOutput ofppTable maxLen

theorem Reinjects.touchUsed {dp : Datapath} {frame : Ofpbuf} {p : SwPort} (loop : Reinjects dp frame p)
    (size : Nat) : Reinjects (Datapath.touchUsed dp (exactKey (flowExtract frame p.portNo).2.1) size) frame p := by
  obtain ⟨entry,maxLen,hit,acts⟩ := loop.loops
  refine ⟨loop.port,loop.kept,loop.admitted,⟨flowUsed dp.nowMsec size entry,maxLen,?_,acts⟩⟩
  have keeps : ∀ f, (flowUsed dp.nowMsec size f).key = f.key := fun f => rfl
  simp only [Datapath.touchUsed,chainLookup,Bool.false_eq_true,if_false]
  rw [lookupFirstTouch keeps]
  simp only [chainLookup,Bool.false_eq_true,if_false] at hit
  rw [hit]
  rfl

theorem reinjectedNeverEnds {frame : Ofpbuf} {p : SwPort} (fuel : Nat) :
    ∀ {dp : Datapath} {b : Ofpbuf}, Reinjects dp frame p → SameFrame b frame →
      runFlowThroughTables fuel dp b (some p) = .error .outOfFuel := by
  induction fuel using Nat.strong_induction_on with
  | _ fuel ih =>
    intro dp b loop same
    obtain ⟨mem,data,size⟩ := same
    obtain ⟨entry,maxLen,hit,acts⟩ := loop.loops
    have extract : flowExtract b (inPortOf (some p)) =
        ((flowExtract frame p.portNo).1,(flowExtract frame p.portNo).2.1,(flowExtract frame p.portNo).2.2) :=
      flowExtractSameFrame mem data size p.portNo
    have admitted : (some p |>.map fun p => recvBlocked p (flowExtract frame p.portNo).2.1) ≠ some true := by
      simp [loop.admitted]
    have again : SameFrame (flowExtract frame p.portNo).2.2 frame := flowExtractFrame frame p.portNo
    match fuel with
    | 0 => rfl
    | 1 =>
      rw [runFlowThroughTablesHit extract loop.kept admitted hit]
      rfl
    | 2 =>
      rw [runFlowThroughTablesHit extract loop.kept admitted hit,acts]
      simp only [executeActions,lengthOfpActionOutput]
      rw [executeActionsWithOne]
      rfl
    | 3 =>
      rw [runFlowThroughTablesHit extract loop.kept admitted hit,acts]
      simp only [executeActions,lengthOfpActionOutput]
      rw [executeActionsWithOne,doOutputToPort (by decide)]
      rfl
    | n + 4 =>
      rw [runFlowThroughTablesHit extract loop.kept admitted hit,acts]
      simp only [executeActions,lengthOfpActionOutput]
      rw [executeActionsWithOne,doOutputToPort (by decide),dpOutputPortTable]
      have back : dpLookupPort (Datapath.touchUsed dp (exactKey (flowExtract frame p.portNo).2.1)
          (flowExtract frame p.portNo).2.2.size) (exactKey (flowExtract frame p.portNo).2.1).flow.inPort = some p := by
        simp only [exactKey,flowExtractInPort]
        exact loop.port
      rw [back,ih n (by omega) (loop.touchUsed _) again]
      rfl

/- An entry that matches everything and outputs to OFPP_TABLE: validate_output lets it through, since its port
is neither OFPP_NONE nor the in_port of a match that wildcards in_port. -/
def tableLoopMod : OfpFlowMod := labFlowMod (ofpActionOutput ofppTable 0)

theorem tableLoopReinjects :
    Reinjects (labDatapath (recvFlow chainCreate tableLoopMod 0).chain) (receiveBuffer 1500 labFrame) (labPort 1) := by
  refine ⟨by decide,by decide,by decide,⟨newFlow tableLoopMod 0,0,by decide +kernel,rfl⟩⟩

theorem tableOutputLoopsForever :
    (recvFlow chainCreate tableLoopMod 0).error = none ∧
    ∀ fuel, portInput fuel (labDatapath (recvFlow chainCreate tableLoopMod 0).chain) 1 1500 labFrame =
      .error .outOfFuel := by
  refine ⟨by decide +kernel,fun fuel => ?_⟩
  have found : (labDatapath (recvFlow chainCreate tableLoopMod 0).chain).ports.find? (·.portNo == 1) =
      some (labPort 1) := by decide
  simp only [portInput,found,fwdPortInput]
  rw [reinjectedNeverEnds fuel tableLoopReinjects ⟨rfl,rfl,rfl⟩]
  rfl

/- Port-mods that set OFPPC_NO_FWD on port 2 and OFPPC_NO_PACKET_IN on port 1. -/
def blockPorts (chain : SwChain) : Except Halt Datapath := do
  let dp ← updatePortFlags (labDatapath chain) ⟨2,(labPort 2).hwAddr,ofppcNoFwd,ofppcNoFwd⟩
  updatePortFlags dp ⟨1,(labPort 1).hwAddr,ofppcNoPacketIn,ofppcNoPacketIn⟩

def forwardMod : OfpFlowMod := labFlowMod (ofpActionOutput 2 0)

/- The packet-in for labFrame from port 1, saved as buffer 0x101: version, OFPT_PACKET_IN, length 78, xid 0,
buffer_id, total_len 60, in_port 1, OFPR_NO_MATCH and the pad byte, then the frame. -/
def missPacketIn : List UInt8 := [1,10,0,78,0,0,0,0,0,0,1,1,0,60,0,1,0,0] ++ labFrame

/- With port 2 set to OFPPC_NO_FWD, a packet the table sends to port 2 is transmitted there; with port 1 set
to OFPPC_NO_PACKET_IN, a packet from port 1 that misses the table is sent up as OFPR_NO_MATCH. -/
theorem portConfigIgnored :
    (blockPorts chainCreate).toOption.map (fun dp => dp.ports.map (·.config)) = some [ofppcNoPacketIn,ofppcNoFwd] ∧
    (recvFlow chainCreate forwardMod 0).error = none ∧
    ((blockPorts (recvFlow chainCreate forwardMod 0).chain).bind fun dp => portInput 8 dp 1 1500 labFrame).toOption.map
      (·.sent) = some [.netdev 2 0 labFrame] ∧
    ((blockPorts chainCreate).bind fun dp => portInput 8 dp 1 1500 labFrame).toOption.map (·.sent) =
      some [.controller missPacketIn] := by
  refine ⟨by decide,by decide +kernel,by decide +kernel,by decide +kernel⟩

/- An entry that outputs to the controller and then to port 2: the controller gets a copy, which ofpbuf_clone
makes with no headroom, and dp_output_control pushes its header in front of it. -/
def controllerFirstMod : OfpFlowMod := labFlowMod (ofpActionOutput ofppController 0xffff ++ ofpActionOutput 2 0)

theorem controllerCopyAsserts :
    (recvFlow chainCreate controllerFirstMod 0).error = none ∧
    ∀ fuel, portInput (fuel + 3) (labDatapath (recvFlow chainCreate controllerFirstMod 0).chain) 1 1500 labFrame =
      .error .assertFailed := by
  refine ⟨by decide +kernel,fun fuel => ?_⟩
  have found : (labDatapath (recvFlow chainCreate controllerFirstMod 0).chain).ports.find? (·.portNo == 1) =
      some (labPort 1) := by decide
  have extract : flowExtract (receiveBuffer 1500 labFrame) (inPortOf (some (labPort 1))) =
      ((flowExtract (receiveBuffer 1500 labFrame) 1).1,(flowExtract (receiveBuffer 1500 labFrame) 1).2.1,
        (flowExtract (receiveBuffer 1500 labFrame) 1).2.2) := rfl
  have hit : chainLookup (recvFlow chainCreate controllerFirstMod 0).chain
      (exactKey (flowExtract (receiveBuffer 1500 labFrame) 1).2.1) false = some (newFlow controllerFirstMod 0) := by
    decide +kernel
  have acts : (newFlow controllerFirstMod 0).actions = ofpActionOutput ofppController 0xffff ++ ofpActionOutput 2 0 :=
    rfl
  simp only [portInput,found,fwdPortInput]
  rw [runFlowThroughTablesHit extract (by decide) (by decide) hit,acts]
  simp only [executeActions,List.length_append,lengthOfpActionOutput]
  rw [executeActionsWithTwo,doOutputToController,dpOutputControlNoRoom (by rw [ofpbufCloneHeadroom]; decide)]
  rfl

end OpenFlow.Forwarding
