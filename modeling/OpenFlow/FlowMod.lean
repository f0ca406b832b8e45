import OpenFlow.Chain
import OpenFlow.Lib.StepSystem

/-! OFPT_FLOW_MOD handling of udatapath/datapath.c (recv_flow, add_flow, mod_flow) as it acts on the chain,
and the chain's runs under flow-mods and timeouts (dp_run's chain_timeout). -/
namespace OpenFlow.FlowMod
open Actions Chain

def ofpfcAdd : UInt16 := 0
def ofpfcModify : UInt16 := 1
def ofpfcModifyStrict : UInt16 := 2
def ofpfcDelete : UInt16 := 3
def ofpfcDeleteStrict : UInt16 := 4

def ofpffSendFlowRem : UInt16 := (1 : UInt16) <<< 0
def ofpffCheckOverlap : UInt16 := (1 : UInt16) <<< 1
def ofpffEmerg : UInt16 := (1 : UInt16) <<< 2

def ofpetBadAction : UInt16 := 2
def ofpetFlowModFailed : UInt16 := 3
def ofpfmfcAllTablesFull : UInt16 := 0
def ofpfmfcOverlap : UInt16 := 1
def ofpfmfcBadEmergTimeout : UInt16 := 3

/- struct ofp_flow_mod; `actions` holds the header.length - sizeof *ofm bytes after it. -/
structure OfpFlowMod where
  ofpMatch : OfpMatch
  cookie : UInt64
  command : UInt16
  idleTimeout : UInt16
  hardTimeout : UInt16
  priority : UInt16
  bufferId : UInt32
  outPort : UInt16
  flags : UInt16
  actions : List UInt8
  deriving DecidableEq, Repr

def flagSet (ofm : OfpFlowMod) (flag : UInt16) : Bool := ofm.flags &&& flag != 0

/- What handling one flow-mod leaves: the chain, the flows dp_send_flow_end reports as deleted, and the error
message sent back, if any. -/
structure FlowModResult where
  chain : SwChain
  removed : List SwFlow
  error : Option (UInt16 × UInt16)

def rejected (chain : SwChain) (type code : UInt16) : FlowModResult := ⟨chain,[],some (type,code)⟩

/- Exact-match entries get priority (uint16_t)-1. -/
def flowPriority (key : SwFlowKey) (ofm : OfpFlowMod) : UInt16 :=
  if key.wildcards ≠ 0 then ofm.priority else 0xffff

/- The entry add_flow and mod_flow build: flow_extract_match, the fields of the message, and
flow_setup_actions at time `now`. -/
def newFlow (ofm : OfpFlowMod) (now : UInt64) : SwFlow :=
  let key := flowExtractMatch ofm.ofpMatch
  { key,cookie := ofm.cookie,priority := flowPriority key ofm,idleTimeout := ofm.idleTimeout,
    hardTimeout := ofm.hardTimeout,used := now,created := now,packetCount := 0,byteCount := 0,
    reason := 0,sendFlowRem := if flagSet ofm ofpffSendFlowRem then 1 else 0,
    emergFlow := if flagSet ofm ofpffEmerg then 1 else 0,actions := ofm.actions,serial := 0 }

def insertOrFull (chain : SwChain) (flow : SwFlow) (emerg : Bool) : FlowModResult :=
  match chainInsert chain flow emerg with
  | some chain => ⟨chain,[],none⟩
  | none => rejected chain ofpetFlowModFailed ofpfmfcAllTablesFull

def addFlow (chain : SwChain) (ofm : OfpFlowMod) (now : UInt64) : FlowModResult :=
  let flow := newFlow ofm now
  let vCode := validateActions flow.key ofm.actions ofm.actions.length
  if vCode ≠ actValidationOk then rejected chain ofpetBadAction vCode
  else if flagSet ofm ofpffCheckOverlap && chainHasConflict chain flow.key flow.priority false then
    rejected chain ofpetFlowModFailed ofpfmfcOverlap
  else if flagSet ofm ofpffEmerg && (ofm.idleTimeout ≠ ofpFlowPermanent || ofm.hardTimeout ≠ ofpFlowPermanent) then
    rejected chain ofpetFlowModFailed ofpfmfcBadEmergTimeout
  else insertOrFull chain flow (flagSet ofm ofpffEmerg)

/- Modify the matching entries; only when there is none is the flow added. -/
def modFlow (chain : SwChain) (ofm : OfpFlowMod) (now : UInt64) : FlowModResult :=
  let flow := newFlow ofm now
  let vCode := validateActions flow.key ofm.actions ofm.actions.length
  if vCode ≠ actValidationOk then rejected chain ofpetBadAction vCode
  else
    let strict := ofm.command == ofpfcModifyStrict
    let (count,modified) := chainModify chain flow.key flow.priority strict ofm.actions (flagSet ofm ofpffEmerg)
    if count ≠ 0 then ⟨modified,[],none⟩
    else insertOrFull modified flow (flagSet ofm ofpffEmerg)

def deleteFlow (chain : SwChain) (ofm : OfpFlowMod) (strict : Bool) : FlowModResult :=
  let key := flowExtractMatch ofm.ofpMatch
  let priority := if strict then flowPriority key ofm else 0
  let (gone,chain) := chainDelete chain key ofm.outPort priority strict (flagSet ofm ofpffEmerg)
  ⟨chain,gone,none⟩

/- recv_flow; an unknown command is answered -ENODEV and changes nothing. -/
def recvFlow (chain : SwChain) (ofm : OfpFlowMod) (now : UInt64) : FlowModResult :=
  if ofm.command = ofpfcAdd then addFlow chain ofm now
  else if ofm.command = ofpfcModify ∨ ofm.command = ofpfcModifyStrict then modFlow chain ofm now
  else if ofm.command = ofpfcDelete then deleteFlow chain ofm false
  else if ofm.command = ofpfcDeleteStrict then deleteFlow chain ofm true
  else ⟨chain,[],none⟩

/- What happens to the chain: a flow-mod from a controller, or the once-a-second timeout sweep of dp_run, each
at time `now`. -/
inductive ChainEvent where
  | flowMod (ofm : OfpFlowMod) (now : UInt64)
  | timeout (now : UInt64)

def chainStep (chain : SwChain) : ChainEvent → SwChain
  | .flowMod ofm now => (recvFlow chain ofm now).chain
  | .timeout now => (chainTimeout chain now).2

def ChainReachable (chain : SwChain) : Prop := StepSystem.Reachable chainStep chainCreate chain

end OpenFlow.FlowMod
