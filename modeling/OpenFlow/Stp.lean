import Mathlib
import OpenFlow.Lib.ByteOrder

/-! The spanning tree bridge of lib/stp.c: its ports, timers and the 802.1D procedures that stp_tick,
stp_received_bpdu and the management calls run. -/
namespace OpenFlow
namespace Stp

def stpMaxPorts : Nat := 255
def stpDefaultBridgePriority : UInt64 := 32768
def stpDefaultPortPriority : Nat := 128

def stpProtocolId : UInt16 := 0x0000
def stpProtocolVersion : UInt8 := 0x00
def stpTypeConfig : UInt8 := 0x00
def stpTypeTcn : UInt8 := 0x80

/- enum stp_config_bpdu_flags -/
def stpConfigTopologyChangeAck : UInt16 := 0x80
def stpConfigTopologyChange : UInt16 := 0x01

def stpBpduHeaderLen : Nat := 4
def stpConfigBpduLen : Nat := 35
def stpTcnBpduLen : Nat := 4

def messageAgeIncrement : Int := 1
def intMax : Int := 2 ^ 31 - 1

def stpEthAddr : List UInt8 := [0x01,0x80,0xC2,0x00,0x00,0x01]
def stpLlcDsap : UInt8 := 0x42
def stpLlcSsap : UInt8 := 0x42
def stpLlcCntl : UInt8 := 0x03
def llcHeaderLen : Nat := 3

/- enum stp_state -/
inductive State where
  | disabled
  | listening
  | learning
  | forwarding
  | blocking
  deriving DecidableEq, Repr

/- The bit of each state, which the code tests with masks. -/
def State.bits : State → UInt32
  | .disabled => (1 : UInt32) <<< 0
  | .listening => (1 : UInt32) <<< 1
  | .learning => (1 : UInt32) <<< 2
  | .forwarding => (1 : UInt32) <<< 3
  | .blocking => (1 : UInt32) <<< 4

def stpForwardInState (state : State) : Bool :=
  state.bits &&& (State.disabled.bits ||| State.forwarding.bits) ≠ 0

def stpLearnInState (state : State) : Bool :=
  state.bits &&& (State.disabled.bits ||| State.learning.bits ||| State.forwarding.bits) ≠ 0

/- struct stp_timer -/
structure Timer where
  active : Bool
  value : Int
  deriving DecidableEq, Repr

def stpStartTimer (value : Int) : Timer := ⟨true,value⟩

def stpStopTimer (timer : Timer) : Timer := { timer with active := false }

/- stp_timer_expired: the timer after `elapsed` more ticks, and whether it ran out (and stopped). -/
def stpTimerExpired (timer : Timer) (elapsed timeout : Int) : Timer × Bool :=
  if timer.active then
    if timer.value + elapsed ≥ timeout then (⟨false,timer.value + elapsed⟩,true)
    else (⟨true,timer.value + elapsed⟩,false)
  else (timer,false)

/- struct stp_port; the back pointer is the bridge that holds it. -/
structure Port where
  portId : Int
  state : State
  pathCost : Int
  designatedRoot : UInt64
  designatedCost : Int
  designatedBridge : UInt64
  designatedPort : Int
  topologyChangeAck : Bool
  configPending : Bool
  changeDetectionEnabled : Bool
  messageAgeTimer : Timer
  forwardDelayTimer : Timer
  holdTimer : Timer
  stateChanged : Bool
  deriving DecidableEq, Repr

/- struct stp_config_bpdu with its multi-byte fields in host order: what stp_transmit_config puts through
htons, and what the receiver reads back through ntohs. -/
structure ConfigBpdu where
  protocolId : UInt16
  protocolVersion : UInt8
  bpduType : UInt8
  flags : UInt8
  rootId : UInt64
  rootPathCost : UInt32
  bridgeId : UInt64
  portId : UInt16
  messageAge : UInt16
  maxAge : UInt16
  helloTime : UInt16
  forwardDelay : UInt16
  deriving DecidableEq, Repr

/- The 35 bytes of the packed struct, every field in network order. -/
def ConfigBpdu.bytes (config : ConfigBpdu) : List UInt8 :=
  BigEndian.ofUInt16 config.protocolId ++ [config.protocolVersion,config.bpduType,config.flags] ++
    BigEndian.ofUInt64 config.rootId ++ BigEndian.ofUInt32 config.rootPathCost ++
    BigEndian.ofUInt64 config.bridgeId ++ BigEndian.ofUInt16 config.portId ++
    BigEndian.ofUInt16 config.messageAge ++ BigEndian.ofUInt16 config.maxAge ++
    BigEndian.ofUInt16 config.helloTime ++ BigEndian.ofUInt16 config.forwardDelay

/- The fields a receiver reads of a BPDU it has checked is a config BPDU of 35 bytes or more. -/
def readConfigBpdu (bpdu : List UInt8) : ConfigBpdu :=
  { protocolId := BigEndian.get16 bpdu 0
    protocolVersion := bpdu.getD 2 0
    bpduType := bpdu.getD 3 0
    flags := bpdu.getD 4 0
    rootId := BigEndian.get64 bpdu 5
    rootPathCost := BigEndian.get32 bpdu 13
    bridgeId := BigEndian.get64 bpdu 17
    portId := BigEndian.get16 bpdu 25
    messageAge := BigEndian.get16 bpdu 27
    maxAge := BigEndian.get16 bpdu 29
    helloTime := BigEndian.get16 bpdu 31
    forwardDelay := BigEndian.get16 bpdu 33 }

/- struct stp_tcn_bpdu: the header alone. -/
def tcnBpdu : List UInt8 := BigEndian.ofUInt16 stpProtocolId ++ [stpProtocolVersion,stpTypeTcn]

/- The int an unsigned value becomes. -/
def intOfUInt32 (v : UInt32) : Int := v.toInt32.toInt

/- The unsigned int an int becomes, modulo 2^32. -/
def uintOfInt (v : Int) : UInt32 := UInt32.ofInt v

end Stp

/- struct stp. -/
structure Stp where
  bridgeId : UInt64
  maxAge : Int
  helloTime : Int
  forwardDelay : Int
  bridgeMaxAge : Int
  bridgeHelloTime : Int
  bridgeForwardDelay : Int
  rqMaxAge : Int
  rqHelloTime : Int
  rqForwardDelay : Int
  elapsedRemainder : Int
  designatedRoot : UInt64
  rootPathCost : UInt32
  rootPort : Option Nat
  topologyChangeDetected : Bool
  topologyChange : Bool
  helloTimer : Stp.Timer
  tcnTimer : Stp.Timer
  topologyChangeTimer : Stp.Timer
  ports : Nat → Stp.Port
  firstChangedPort : Nat
  sent : List (Nat × List UInt8)

namespace Stp

def setPort (stp : Stp) (i : Nat) (p : Port) : Stp := { stp with ports := Function.update stp.ports i p }

def modifyPort (stp : Stp) (i : Nat) (f : Port → Port) : Stp := stp.setPort i (f (stp.ports i))

/- FOR_EACH_ENABLED_PORT: the ports in index order, each tested when the loop reaches it. -/
def forEachEnabledPort (body : Stp → Nat → Stp) (stp : Stp) : Stp :=
  (List.range stpMaxPorts).foldl (fun stp i => if (stp.ports i).state ≠ .disabled then body stp i else stp) stp

@[simp] theorem portsSetSelf (stp : Stp) (i : Nat) (p : Port) : (stp.setPort i p).ports i = p := by
  unfold setPort
  exact Function.update_self i p stp.ports

@[simp] theorem portsSetOther (stp : Stp) {i j : Nat} (p : Port) (other : j ≠ i) :
    (stp.setPort i p).ports j = stp.ports j := by
  unfold setPort
  exact Function.update_of_ne other p stp.ports

def stpIsRootBridge (stp : Stp) : Bool := stp.bridgeId == stp.designatedRoot

def stpIsDesignatedPort (stp : Stp) (p : Port) : Bool :=
  p.designatedBridge == stp.bridgeId && p.designatedPort == p.portId

/- stp_send_bpdu: the BPDU behind an Ethernet header to the STP address and an LLC header; send_bpdu fills in
the source address. -/
def bpduFrame (bpdu : List UInt8) : List UInt8 :=
  stpEthAddr ++ List.replicate 6 0 ++ BigEndian.ofUInt16 (llcHeaderLen + bpdu.length).toUInt16 ++
    [stpLlcDsap,stpLlcSsap,stpLlcCntl] ++ bpdu

def stpSendBpdu (stp : Stp) (i : Nat) (bpdu : List UInt8) : Stp := { stp with sent := stp.sent ++ [(i,bpduFrame bpdu)] }

def stpSetPortState (stp : Stp) (i : Nat) (state : State) : Stp :=
  let p := stp.ports i
  if state ≠ p.state ∧ !p.stateChanged then
    { stp.setPort i { p with state, stateChanged := true } with
      firstChangedPort := if i < stp.firstChangedPort then i else stp.firstChangedPort }
  else stp.setPort i { p with state }

def stpBecomeDesignatedPort (stp : Stp) (i : Nat) : Stp :=
  stp.modifyPort i fun p =>
    { p with
      designatedRoot := stp.designatedRoot
      designatedCost := intOfUInt32 stp.rootPathCost
      designatedBridge := stp.bridgeId
      designatedPort := p.portId }

/- The message age stp_transmit_config sends: 0 at the root, else the root port's message-age timer plus
MESSAGE_AGE_INCREMENT; none when the bridge is neither the root nor has a root port, where it sends nothing.
-/
def configMessageAge (stp : Stp) : Option UInt16 :=
  if stp.stpIsRootBridge then some 0
  else stp.rootPort.map fun r => UInt16.ofInt ((stp.ports r).messageAgeTimer.value + messageAgeIncrement)

/- The config BPDU stp_transmit_config fills in for port `p`. -/
def configBpdu (stp : Stp) (p : Port) (messageAge : UInt16) : ConfigBpdu :=
  let flags : UInt8 := 0
  let flags := if p.topologyChangeAck then
      (flags.toUInt16 ||| LittleEndian.swap16 stpConfigTopologyChangeAck).toUInt8 else flags
  let flags := if stp.topologyChange then
      (flags.toUInt16 ||| LittleEndian.swap16 stpConfigTopologyChange).toUInt8 else flags
  { protocolId := stpProtocolId
    protocolVersion := stpProtocolVersion
    bpduType := stpTypeConfig
    flags
    rootId := stp.designatedRoot
    rootPathCost := stp.rootPathCost
    bridgeId := stp.bridgeId
    portId := UInt16.ofInt p.portId
    messageAge
    maxAge := UInt16.ofInt stp.maxAge
    helloTime := UInt16.ofInt stp.helloTime
    forwardDelay := UInt16.ofInt stp.forwardDelay }

def stpTransmitConfig (stp : Stp) (i : Nat) : Stp :=
  match configMessageAge stp with
  | none => stp
  | some messageAge =>
    let p := stp.ports i
    if p.holdTimer.active then stp.setPort i { p with configPending := true }
    else
      let config := configBpdu stp p messageAge
      if (config.messageAge.toNat : Int) < stp.maxAge then
        let p := { p with topologyChangeAck := false, configPending := false, holdTimer := stpStartTimer 0 }
        (stp.setPort i p).stpSendBpdu i config.bytes
      else stp

theorem configBpduFlags (stp : Stp) (p : Port) (messageAge : UInt16) : (configBpdu stp p messageAge).flags = 0 := by
  unfold configBpdu
  dsimp only
  split_ifs <;> decide

theorem bpduFrameFlags (config : ConfigBpdu) : (bpduFrame config.bytes).getD 21 0 = config.flags := rfl

theorem transmitConfigSent (stp : Stp) (i : Nat) :
    (stpTransmitConfig stp i).sent = stp.sent ∨
      ∃ messageAge, (stpTransmitConfig stp i).sent = stp.sent ++ [(i,bpduFrame (configBpdu stp (stp.ports i) messageAge).bytes)] := by
  unfold stpTransmitConfig
  split
  · exact Or.inl rfl
  · rename_i messageAge _
    dsimp only
    split_ifs
    · exact Or.inl rfl
    · exact Or.inr ⟨messageAge,rfl⟩
    · exact Or.inl rfl

def stpSupersedesPortInfo (stp : Stp) (p : Port) (config : ConfigBpdu) : Bool :=
  if config.rootId ≠ p.designatedRoot then decide (config.rootId < p.designatedRoot)
  else if config.rootPathCost ≠ uintOfInt p.designatedCost then decide (config.rootPathCost < uintOfInt p.designatedCost)
  else if config.bridgeId ≠ p.designatedBridge then decide (config.bridgeId < p.designatedBridge)
  else config.bridgeId != stp.bridgeId || decide ((config.portId.toNat : Int) ≤ p.designatedPort)

def stpRecordConfigInformation (stp : Stp) (i : Nat) (config : ConfigBpdu) : Stp :=
  stp.modifyPort i fun p =>
    { p with
      designatedRoot := config.rootId
      designatedCost := intOfUInt32 config.rootPathCost
      designatedBridge := config.bridgeId
      designatedPort := config.portId.toNat
      messageAgeTimer := stpStartTimer config.messageAge.toNat }

def stpRecordConfigTimeoutValues (stp : Stp) (config : ConfigBpdu) : Stp :=
  { stp with
    maxAge := config.maxAge.toNat
    helloTime := config.helloTime.toNat
    forwardDelay := config.forwardDelay.toNat
    topologyChange := config.flags.toUInt16 &&& LittleEndian.swap16 stpConfigTopologyChange != 0 }

set_option maxRecDepth 10000 in
theorem flagsMissHtons : ∀ flags : UInt8,
    flags.toUInt16 &&& LittleEndian.swap16 stpConfigTopologyChange = 0 ∧
      flags.toUInt16 &&& LittleEndian.swap16 stpConfigTopologyChangeAck = 0 := by
  decide

theorem recordTimeoutValuesNoChange (stp : Stp) (config : ConfigBpdu) :
    stpRecordConfigTimeoutValues stp config =
      { stp with
        maxAge := config.maxAge.toNat
        helloTime := config.helloTime.toNat
        forwardDelay := config.forwardDelay.toNat
        topologyChange := false } := by
  simp only [stpRecordConfigTimeoutValues,(flagsMissHtons _).1,bne_self_eq_false]

def stpConfigBpduGeneration (stp : Stp) : Stp :=
  stp.forEachEnabledPort fun stp i => if stp.stpIsDesignatedPort (stp.ports i) then stpTransmitConfig stp i else stp

def stpTransmitTcn (stp : Stp) : Stp :=
  match stp.rootPort with
  | none => stp
  | some r => stp.stpSendBpdu r tcnBpdu

def stpSupersedesRoot (root p : Port) : Bool :=
  let pCost := p.designatedCost + p.pathCost
  let rootCost := root.designatedCost + root.pathCost
  if p.designatedRoot ≠ root.designatedRoot then decide (p.designatedRoot < root.designatedRoot)
  else if pCost ≠ rootCost then decide (pCost < rootCost)
  else if p.designatedBridge ≠ root.designatedBridge then decide (p.designatedBridge < root.designatedBridge)
  else if p.designatedPort ≠ root.designatedPort then decide (p.designatedPort < root.designatedPort)
  else decide (p.portId < root.portId)

/- The loop of stp_root_selection: among the enabled ports that are not designated and hear of a root below
this bridge, the one no later port supersedes. -/
def rootSelectionLoop (stp : Stp) : Option Nat :=
  (List.range stpMaxPorts).foldl (fun root i =>
    let p := stp.ports i
    if p.state = .disabled then root
    else if stp.stpIsDesignatedPort p || decide (p.designatedRoot ≥ stp.bridgeId) then root
    else match root with
      | some r => if !stpSupersedesRoot (stp.ports r) p then root else some i
      | none => some i) none

def stpRootSelection (stp : Stp) : Stp :=
  match rootSelectionLoop stp with
  | none => { stp with rootPort := none, designatedRoot := stp.bridgeId, rootPathCost := 0 }
  | some r =>
    { stp with
      rootPort := some r
      designatedRoot := (stp.ports r).designatedRoot
      rootPathCost := uintOfInt ((stp.ports r).designatedCost + (stp.ports r).pathCost) }

def stpDesignatedPortSelection (stp : Stp) : Stp :=
  stp.forEachEnabledPort fun stp i =>
    let p := stp.ports i
    if stp.stpIsDesignatedPort p || p.designatedRoot != stp.designatedRoot ||
        decide (stp.rootPathCost < uintOfInt p.designatedCost) ||
        (stp.rootPathCost == uintOfInt p.designatedCost &&
          (decide (stp.bridgeId < p.designatedBridge) ||
            (stp.bridgeId == p.designatedBridge && decide (p.portId ≤ p.designatedPort)))) then
      stpBecomeDesignatedPort stp i
    else stp

def stpConfigurationUpdate (stp : Stp) : Stp := stpDesignatedPortSelection (stpRootSelection stp)

def stpTopologyChangeDetection (stp : Stp) : Stp :=
  let stp :=
    if stp.stpIsRootBridge then { stp with topologyChange := true, topologyChangeTimer := stpStartTimer 0 }
    else if !stp.topologyChangeDetected then { stpTransmitTcn stp with tcnTimer := stpStartTimer 0 }
    else stp
  { stp with topologyChangeDetected := true }

def stpTopologyChangeAcknowledged (stp : Stp) : Stp :=
  { stp with topologyChangeDetected := false, tcnTimer := stpStopTimer stp.tcnTimer }

def stpAcknowledgeTopologyChange (stp : Stp) (i : Nat) : Stp :=
  stpTransmitConfig (stp.modifyPort i fun p => { p with topologyChangeAck := true }) i

def stpMakeForwarding (stp : Stp) (i : Nat) : Stp :=
  if (stp.ports i).state = .blocking then
    (stpSetPortState stp i .listening).modifyPort i fun p => { p with forwardDelayTimer := stpStartTimer 0 }
  else stp

def stpMakeBlocking (stp : Stp) (i : Nat) : Stp :=
  let p := stp.ports i
  if p.state.bits &&& (State.disabled.bits ||| State.blocking.bits) = 0 then
    let stp :=
      if p.state.bits &&& (State.forwarding.bits ||| State.learning.bits) ≠ 0 ∧ p.changeDetectionEnabled then
        stpTopologyChangeDetection stp
      else stp
    (stpSetPortState stp i .blocking).modifyPort i fun p => { p with forwardDelayTimer := stpStopTimer p.forwardDelayTimer }
  else stp

def stpPortStateSelection (stp : Stp) : Stp :=
  stp.forEachEnabledPort fun stp i =>
    if stp.rootPort = some i then
      stpMakeForwarding (stp.modifyPort i fun p => { p with configPending := false, topologyChangeAck := false }) i
    else if stp.stpIsDesignatedPort (stp.ports i) then
      stpMakeForwarding (stp.modifyPort i fun p => { p with messageAgeTimer := stpStopTimer p.messageAgeTimer }) i
    else
      stpMakeBlocking (stp.modifyPort i fun p => { p with configPending := false, topologyChangeAck := false }) i

def stpReceivedConfigBpdu (stp : Stp) (i : Nat) (config : ConfigBpdu) : Stp :=
  if config.messageAge ≥ config.maxAge then stp
  else if (stp.ports i).state = .disabled then stp
  else
    let root := stp.stpIsRootBridge
    if stpSupersedesPortInfo stp (stp.ports i) config then
      let stp := stpPortStateSelection (stpConfigurationUpdate (stpRecordConfigInformation stp i config))
      let stp :=
        if !stp.stpIsRootBridge && root then
          let stp := { stp with helloTimer := stpStopTimer stp.helloTimer }
          if stp.topologyChangeDetected then
            { stpTransmitTcn { stp with topologyChangeTimer := stpStopTimer stp.topologyChangeTimer } with
              tcnTimer := stpStartTimer 0 }
          else stp
        else stp
      if stp.rootPort = some i then
        let stp := stpConfigBpduGeneration (stpRecordConfigTimeoutValues stp config)
        if config.flags.toUInt16 &&& LittleEndian.swap16 stpConfigTopologyChangeAck ≠ 0 then
          stpTopologyChangeAcknowledged stp
        else stp
      else stp
    else if stp.stpIsDesignatedPort (stp.ports i) then stpTransmitConfig stp i
    else stp

theorem receivedConfigFlagsIgnored (stp : Stp) (i : Nat) (config : ConfigBpdu) :
    stpReceivedConfigBpdu stp i config = stpReceivedConfigBpdu stp i { config with flags := 0 } := by
  have supersedes : stpSupersedesPortInfo stp (stp.ports i) config =
      stpSupersedesPortInfo stp (stp.ports i) { config with flags := 0 } := rfl
  have record : stpRecordConfigInformation stp i config = stpRecordConfigInformation stp i { config with flags := 0 } := rfl
  unfold stpReceivedConfigBpdu
  rw [supersedes,record]
  simp only [recordTimeoutValuesNoChange,(flagsMissHtons _).2]

theorem configFlagsLost (stp : Stp) (i : Nat) (config : ConfigBpdu) :
    (∃ fresh, (stpTransmitConfig stp i).sent = stp.sent ++ fresh ∧ ∀ frame ∈ fresh, frame.2.getD 21 0 = 0) ∧
      stpReceivedConfigBpdu stp i config = stpReceivedConfigBpdu stp i { config with flags := 0 } := by
  refine ⟨?_,receivedConfigFlagsIgnored stp i config⟩
  rcases transmitConfigSent stp i with same | ⟨messageAge,sent⟩
  · exact ⟨[],by rw [same,List.append_nil],by simp⟩
  · refine ⟨_,sent,?_⟩
    intro frame mem
    rw [List.mem_singleton.mp mem,bpduFrameFlags,configBpduFlags]

def stpReceivedTcnBpdu (stp : Stp) (i : Nat) : Stp :=
  if (stp.ports i).state ≠ .disabled ∧ stp.stpIsDesignatedPort (stp.ports i) then
    stpAcknowledgeTopologyChange (stpTopologyChangeDetection stp) i
  else stp

/- stp_received_bpdu: the checks on the header and the size, then the handler of the BPDU's type. -/
def stpReceivedBpdu (stp : Stp) (i : Nat) (bpdu : List UInt8) : Stp :=
  if (stp.ports i).state = .disabled then stp
  else if bpdu.length < stpBpduHeaderLen then stp
  else if BigEndian.get16 bpdu 0 ≠ stpProtocolId then stp
  else if bpdu.getD 3 0 = stpTypeConfig then
    if bpdu.length < stpConfigBpduLen then stp else stpReceivedConfigBpdu stp i (readConfigBpdu bpdu)
  else if bpdu.getD 3 0 = stpTypeTcn then
    if bpdu.length ≠ stpTcnBpduLen then stp else stpReceivedTcnBpdu stp i
  else stp

/- The part stp_become_root_bridge shares with stp_message_age_timer_expiry: take the bridge's own timer
values and announce the change. -/
def stpBecomeRootBridge (stp : Stp) : Stp :=
  let stp := { stp with maxAge := stp.bridgeMaxAge, helloTime := stp.bridgeHelloTime, forwardDelay := stp.bridgeForwardDelay }
  let stp := stpTopologyChangeDetection stp
  let stp := stpConfigBpduGeneration { stp with tcnTimer := stpStopTimer stp.tcnTimer }
  { stp with helloTimer := stpStartTimer 0 }

def stpHelloTimerExpiry (stp : Stp) : Stp :=
  { stpConfigBpduGeneration stp with helloTimer := stpStartTimer 0 }

def stpMessageAgeTimerExpiry (stp : Stp) (i : Nat) : Stp :=
  let root := stp.stpIsRootBridge
  let stp := stpPortStateSelection (stpConfigurationUpdate (stpBecomeDesignatedPort stp i))
  if stp.stpIsRootBridge && !root then stpBecomeRootBridge stp else stp

def stpIsDesignatedForSomePort (stp : Stp) : Bool :=
  (List.range stpMaxPorts).any fun i => (stp.ports i).state ≠ .disabled && (stp.ports i).designatedBridge == stp.bridgeId

def stpForwardDelayTimerExpiry (stp : Stp) (i : Nat) : Stp :=
  if (stp.ports i).state = .listening then
    (stpSetPortState stp i .learning).modifyPort i fun p => { p with forwardDelayTimer := stpStartTimer 0 }
  else if (stp.ports i).state = .learning then
    let stp := stpSetPortState stp i .forwarding
    if stpIsDesignatedForSomePort stp ∧ (stp.ports i).changeDetectionEnabled then stpTopologyChangeDetection stp
    else stp
  else stp

def stpTcnTimerExpiry (stp : Stp) : Stp := { stpTransmitTcn stp with tcnTimer := stpStartTimer 0 }

def stpTopologyChangeTimerExpiry (stp : Stp) : Stp :=
  { stp with topologyChangeDetected := false, topologyChange := false }

def stpHoldTimerExpiry (stp : Stp) (i : Nat) : Stp :=
  if (stp.ports i).configPending then stpTransmitConfig stp i else stp

def stpInitializePort (stp : Stp) (i : Nat) (state : State) : Stp :=
  let stp := stpSetPortState (stpBecomeDesignatedPort stp i) i state
  stp.modifyPort i fun p =>
    { p with
      topologyChangeAck := false
      configPending := false
      changeDetectionEnabled := true
      messageAgeTimer := stpStopTimer p.messageAgeTimer
      forwardDelayTimer := stpStopTimer p.forwardDelayTimer
      holdTimer := stpStopTimer p.holdTimer }

def clamp (x min max : Int) : Int := if x < min then min else if x > max then max else x

/- 256 STP timer ticks a second; C division truncates toward zero. -/
def msToTimer (ms : Int) : Int := (ms * 0x100).tdiv 1000

def msToTimerRemainder (ms : Int) : Int := (ms * 0x100).tmod 1000

def timerToMs (timer : Int) : Int := (timer * 1000).tdiv 0x100

def stpUpdateBridgeTimers (stp : Stp) : Stp :=
  let ht := clamp stp.rqHelloTime 1000 10000
  let ma := clamp stp.rqMaxAge (max (2 * (ht + 1000)) 6000) 40000
  let fd := clamp stp.rqForwardDelay (ma.tdiv 2 + 1000) 30000
  let stp := { stp with bridgeHelloTime := msToTimer ht, bridgeMaxAge := msToTimer ma, bridgeForwardDelay := msToTimer fd }
  if stp.stpIsRootBridge then
    { stp with maxAge := stp.bridgeMaxAge, helloTime := stp.bridgeHelloTime, forwardDelay := stp.bridgeForwardDelay }
  else stp

/- A port as stp_create leaves it. -/
def createdPort (bridgeId : UInt64) (i : Nat) : Port :=
  let portId : Int := ((i + 1) ||| stpDefaultPortPriority <<< 8 : Nat)
  { portId
    state := .disabled
    pathCost := 19
    designatedRoot := bridgeId
    designatedCost := 0
    designatedBridge := bridgeId
    designatedPort := portId
    topologyChangeAck := false
    configPending := false
    changeDetectionEnabled := true
    messageAgeTimer := ⟨false,0⟩
    forwardDelayTimer := ⟨false,0⟩
    holdTimer := ⟨false,0⟩
    stateChanged := true }

/- stp_create: a bridge ID without a priority gets the default one, and every port starts disabled. -/
def stpCreate (bridgeId : UInt64) : Stp :=
  let bridgeId := if bridgeId >>> 48 = 0 then bridgeId ||| stpDefaultBridgePriority <<< 48 else bridgeId
  let stp : Stp :=
    { bridgeId
      maxAge := 0
      helloTime := 0
      forwardDelay := 0
      bridgeMaxAge := 0
      bridgeHelloTime := 0
      bridgeForwardDelay := 0
      rqMaxAge := 6000
      rqHelloTime := 2000
      rqForwardDelay := 4000
      elapsedRemainder := 0
      designatedRoot := 0
      rootPathCost := 0
      rootPort := none
      topologyChangeDetected := false
      topologyChange := false
      helloTimer := ⟨false,0⟩
      tcnTimer := ⟨false,0⟩
      topologyChangeTimer := ⟨false,0⟩
      ports := createdPort bridgeId
      firstChangedPort := 0
      sent := [] }
  let stp := stpUpdateBridgeTimers stp
  { stp with
    maxAge := stp.bridgeMaxAge
    helloTime := stp.bridgeHelloTime
    forwardDelay := stp.bridgeForwardDelay
    designatedRoot := bridgeId
    helloTimer := stpStartTimer 0 }

/- The timer part of stp_tick, once the milliseconds have made `elapsed` ticks. -/
def stpTickTimers (stp : Stp) (elapsed : Int) : Stp :=
  let hello := stpTimerExpired stp.helloTimer elapsed stp.helloTime
  let stp := { stp with helloTimer := hello.1 }
  let stp := if hello.2 then stpHelloTimerExpiry stp else stp
  let tcn := stpTimerExpired stp.tcnTimer elapsed stp.bridgeHelloTime
  let stp := { stp with tcnTimer := tcn.1 }
  let stp := if tcn.2 then stpTcnTimerExpiry stp else stp
  let change := stpTimerExpired stp.topologyChangeTimer elapsed (stp.maxAge + stp.forwardDelay)
  let stp := { stp with topologyChangeTimer := change.1 }
  let stp := if change.2 then stpTopologyChangeTimerExpiry stp else stp
  let stp := stp.forEachEnabledPort fun stp i =>
    let age := stpTimerExpired (stp.ports i).messageAgeTimer elapsed stp.maxAge
    let stp := stp.modifyPort i fun p => { p with messageAgeTimer := age.1 }
    if age.2 then stpMessageAgeTimerExpiry stp i else stp
  stp.forEachEnabledPort fun stp i =>
    let delay := stpTimerExpired (stp.ports i).forwardDelayTimer elapsed stp.forwardDelay
    let stp := stp.modifyPort i fun p => { p with forwardDelayTimer := delay.1 }
    let stp := if delay.2 then stpForwardDelayTimerExpiry stp i else stp
    let hold := stpTimerExpired (stp.ports i).holdTimer elapsed (msToTimer 1000)
    let stp := stp.modifyPort i fun p => { p with holdTimer := hold.1 }
    if hold.2 then stpHoldTimerExpiry stp i else stp

/- The milliseconds stp_tick converts: this call's, clamped, with what the last call left over. -/
def tickMs (stp : Stp) (ms : Int) : Int := clamp ms 0 (intMax - 1000) + stp.elapsedRemainder

/- stp_tick: the milliseconds made into ticks; what is left over is kept for the next call. -/
def stpTick (stp : Stp) (ms : Int) : Stp :=
  let ms := tickMs stp ms
  let elapsed := msToTimer ms
  let stp := { stp with elapsedRemainder := msToTimerRemainder ms }
  if elapsed = 0 then stp else stpTickTimers stp elapsed

/- The ticks a sequence of stp_tick calls hands to the timers: the `elapsed` of each call. -/
def ticksApplied : Stp → List Int → Int
  | _, [] => 0
  | stp, ms :: rest => msToTimer (tickMs stp ms) + ticksApplied (stpTick stp ms) rest

/- Two calls of 1 ms on a new bridge. -/
theorem tickRemainderInventsTicks :
    ticksApplied (stpCreate 5) [1,1] = 65 ∧ 256 * 2 / 1000 = 0 ∧
      (stpTick (stpTick (stpCreate 5) 1) 1).helloTimer.value = 65 ∧
      clamp intMax 0 (intMax - 1000) * 0x100 > intMax := by
  decide +kernel

def setBridgeId (stp : Stp) (newBridgeId : UInt64) : Stp :=
  if newBridgeId ≠ stp.bridgeId then
    let root := stp.stpIsRootBridge
    let stp := stp.forEachEnabledPort fun stp i =>
      if stp.stpIsDesignatedPort (stp.ports i) then stp.modifyPort i fun p => { p with designatedBridge := newBridgeId }
      else stp
    let stp := stpPortStateSelection (stpConfigurationUpdate { stp with bridgeId := newBridgeId })
    if stp.stpIsRootBridge && !root then stpBecomeRootBridge stp else stp
  else stp

def macBits : UInt64 := ((1 : UInt64) <<< 48) - 1

def stpSetBridgeId (stp : Stp) (bridgeId : UInt64) : Stp :=
  setBridgeId stp ((stp.bridgeId &&& ~~~macBits) ||| (bridgeId &&& macBits))

def stpSetBridgePriority (stp : Stp) (newPriority : UInt16) : Stp :=
  setBridgeId stp ((stp.bridgeId &&& macBits) ||| (newPriority.toUInt64 <<< 48))

def stpSetHelloTime (stp : Stp) (ms : Int) : Stp := stpUpdateBridgeTimers { stp with rqHelloTime := ms }

def stpSetMaxAge (stp : Stp) (ms : Int) : Stp := stpUpdateBridgeTimers { stp with rqMaxAge := ms }

def stpSetForwardDelay (stp : Stp) (ms : Int) : Stp := stpUpdateBridgeTimers { stp with rqForwardDelay := ms }

/- stp_get_changed_port: the first port from first_changed_port on whose state changed, with its mark cleared.
-/
def stpGetChangedPort (stp : Stp) : Stp × Option Nat :=
  match (List.range' stp.firstChangedPort (stpMaxPorts - stp.firstChangedPort)).find? (fun i => (stp.ports i).stateChanged) with
  | some i => ({ stp.modifyPort i fun p => { p with stateChanged := false } with firstChangedPort := i + 1 },some i)
  | none => ({ stp with firstChangedPort := stpMaxPorts },none)

def stpPortDisable (stp : Stp) (i : Nat) : Stp :=
  if (stp.ports i).state ≠ .disabled then
    let root := stp.stpIsRootBridge
    let stp := stpSetPortState (stpBecomeDesignatedPort stp i) i .disabled
    let stp := stp.modifyPort i fun p =>
      { p with
        topologyChangeAck := false
        configPending := false
        messageAgeTimer := stpStopTimer p.messageAgeTimer
        forwardDelayTimer := stpStopTimer p.forwardDelayTimer }
    let stp := stpPortStateSelection (stpConfigurationUpdate stp)
    if stp.stpIsRootBridge && !root then stpBecomeRootBridge stp else stp
  else stp

def stpPortEnable (stp : Stp) (i : Nat) : Stp :=
  if (stp.ports i).state = .disabled then stpPortStateSelection (stpInitializePort stp i .blocking) else stp

def stpPortSetPriority (stp : Stp) (i : Nat) (newPriority : UInt8) : Stp :=
  let p := stp.ports i
  let newPortId : UInt16 := (UInt16.ofInt p.portId &&& (0xff : UInt16)) ||| (newPriority.toUInt16 <<< 8)
  if p.portId ≠ newPortId.toNat then
    let stp := if stp.stpIsDesignatedPort p then stp.modifyPort i fun p => { p with designatedPort := newPortId.toNat } else stp
    let stp := stp.modifyPort i fun p => { p with portId := newPortId.toNat }
    let p := stp.ports i
    if stp.bridgeId = p.designatedBridge ∧ p.portId < p.designatedPort then
      stpPortStateSelection (stpBecomeDesignatedPort stp i)
    else stp
  else stp

def stpPortSetPathCost (stp : Stp) (i : Nat) (pathCost : UInt16) : Stp :=
  if (stp.ports i).pathCost ≠ pathCost.toNat then
    stpPortStateSelection (stpConfigurationUpdate (stp.modifyPort i fun p => { p with pathCost := pathCost.toNat }))
  else stp

def stpPortSetSpeed (stp : Stp) (i : Nat) (speed : UInt32) : Stp :=
  stpPortSetPathCost stp i
    (if speed ≥ 10000 then 2 else if speed ≥ 1000 then 4 else if speed ≥ 100 then 19
      else if speed ≥ 16 then 62 else if speed ≥ 10 then 100 else if speed ≥ 4 then 250 else 19)

def stpPortEnableChangeDetection (stp : Stp) (i : Nat) : Stp :=
  stp.modifyPort i fun p => { p with changeDetectionEnabled := true }

def stpPortDisableChangeDetection (stp : Stp) (i : Nat) : Stp :=
  stp.modifyPort i fun p => { p with changeDetectionEnabled := false }

end Stp
end OpenFlow
