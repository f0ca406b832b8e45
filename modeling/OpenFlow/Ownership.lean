import OpenFlow.Forwarding
import OpenFlow.Lib.Simulation

/-! Who releases the ofpbuf of a packet. -/
namespace OpenFlow.Ownership
open Actions Chain Execute FlowMod Datapath ChainRules Forwarding Simulation

section Parametric
variable {σ τ : Type} (acts : List UInt8) (inPort : UInt16)

/- The output the loop of execute_actions held back, which goes out before the next action. -/
def flush (out : DoOutput σ) (s : σ) (st : LoopState) : Except Halt σ :=
  match st.prev with
  | some (port,queue) => out s (ofpbufClone st.buffer) inPort st.maxLen port queue
  | none => pure s

/- The action itself, which the state do_output works on does not see. -/
def actionStep (st : LoopState) (p : Nat) : Except Halt LoopState :=
  if actionType acts p = ofpatOutput then
    pure { st with prev := some (outputPort acts p,0),maxLen := outputMaxLen acts p }
  else if actionType acts p = ofpatEnqueue then
    pure { st with prev := some (outputPort acts p,enqueueQueueId acts p),maxLen := 0 }
  else if actionType acts p < ofActionsSize then
    (executeOfpat st.buffer st.key acts p (actionType acts p)).map fun r => { st with buffer := r.1,key := r.2 }
  else pure st

/- Two do_outputs on states that `R` relates, which fail together and keep `R`, make the loops of output_all
and of execute_actions do the same. -/
variable {R : σ → τ → Prop}

variable {out' : DoOutput σ} {out : DoOutput τ}
  (agree : ∀ s t b inPort maxLen port queue, R s t →
    ExceptRel R (out' s b inPort maxLen port queue) (out t b inPort maxLen port queue))
include agree

end Parametric

/- A state of the datapath with the count of the releases made. -/
abbrev Owned := Datapath × Int

mutual

/- dp_output_port. -/
def dpOutputPortOwn : Nat → Datapath → Ofpbuf → UInt16 → UInt16 → UInt32 → Except Halt Owned
  | 0, _, _, _, _, _ => .error .outOfFuel
  | fuel + 1, dp, buffer, inPort, outPort, queueId =>
    if outPort = ofppInPort then pure (outputPacket dp buffer inPort queueId,0)
    else if outPort = ofppTable then do
      let (_,dp,n) ← runFlowThroughTablesOwn fuel dp buffer (dpLookupPort dp inPort)
      pure (dp,n)
    else if outPort = ofppFlood then outputAllOwn fuel dp buffer inPort true
    else if outPort = ofppAll then outputAllOwn fuel dp buffer inPort false
    else if outPort = ofppController then (dpOutputControl dp buffer inPort 0xffff ofprAction).map fun dp => (dp,0)
    else if inPort = outPort then pure (dp,-1)
    else pure (outputPacket dp buffer outPort queueId,0)

/- output_all: each port it sends to owns the copy or, last, the buffer it is given; with no port at all it
deletes the buffer. -/
def outputAllOwn : Nat → Datapath → Ofpbuf → UInt16 → Bool → Except Halt Owned
  | 0, _, _, _, _ => .error .outOfFuel
  | fuel + 1, dp, buffer, inPort, flood =>
    outputAllLoop (fun s b port => (dpOutputPortOwn fuel s.1 b inPort port 0).map fun r => (r.1,s.2 + r.2))
      buffer inPort flood dp.ports none (dp,0)

/- run_flow_through_tables: the dropped packet is deleted, the matched one goes to execute_actions, and on a
miss the buffer goes back to the caller. -/
def runFlowThroughTablesOwn : Nat → Datapath → Ofpbuf → Option SwPort → Except Halt (Option Ofpbuf × Owned)
  | 0, _, _, _ => .error .outOfFuel
  | fuel + 1, dp, buffer, p =>
    let (frag,flow,buffer) := flowExtract buffer (inPortOf p)
    let key := exactKey flow
    if frag ∧ dp.flags &&& ofpcFragMask = ofpcFragDrop then pure (none,dp,0)
    else if (p.map fun p => recvBlocked p flow) = some true then pure (none,dp,0)
    else match chainLookup dp.chain key false with
      | some entry => do
        let r ← executeActionsOwn fuel (touchUsed dp key buffer.size) buffer key entry.actions entry.actions.length
        pure (none,r)
      | none => pure (some buffer,dp,0)

/- execute_actions: each output owns the copy it is given, the last one the buffer; with no output the buffer
is deleted. -/
def executeActionsOwn : Nat → Datapath → Ofpbuf → SwFlowKey → List UInt8 → Nat → Except Halt Owned
  | 0, _, _, _, _, _ => .error .outOfFuel
  | fuel + 1, dp, buffer, key, acts, actionsLen =>
    executeActionsWith
      (fun s b inPort maxLen port queue => (doOutputOwn fuel s.1 b inPort maxLen port queue).map fun r => (r.1,s.2 + r.2))
      acts (dp,0) buffer key actionsLen

def doOutputOwn : Nat → Datapath → Ofpbuf → UInt16 → UInt16 → UInt16 → UInt32 → Except Halt Owned
  | 0, _, _, _, _, _, _ => .error .outOfFuel
  | fuel + 1, dp, buffer, inPort, maxLen, outPort, queueId =>
    if outPort ≠ ofppController then dpOutputPortOwn fuel dp buffer inPort outPort queueId
    else (dpOutputControl dp buffer inPort maxLen.toNat ofprAction).map fun dp => (dp,0)

end

/- fwd_port_input: on a miss the buffer comes back and goes to dp_output_control. -/
def fwdPortInputOwn (fuel : Nat) (dp : Datapath) (buffer : Ofpbuf) (p : SwPort) : Except Halt Owned := do
  let (miss,dp,n) ← runFlowThroughTablesOwn fuel dp buffer (some p)
  match miss with
  | some buffer => (dpOutputControl dp buffer p.portNo dp.missSendLen.toNat ofprNoMatch).map fun dp => (dp,n)
  | none => pure (dp,n)

def portInputOwn (fuel : Nat) (dp : Datapath) (portNo : UInt16) (mtu : Nat) (frame : List UInt8) : Except Halt Owned :=
  match dp.ports.find? (·.portNo == portNo) with
  | some p => fwdPortInputOwn fuel dp (receiveBuffer mtu frame) p
  | none => pure (dp,0)

section Refinement

/- The counted state read without its count. -/
def Erases (s : Owned) (dp : Datapath) : Prop := s.1 = dp

end Refinement

section Leak
variable {fuel : Nat} {dp : Datapath} {buffer : Ofpbuf} {port : UInt16} {queueId : UInt32}

/- An entry that sends every packet it matches to port 1. -/
def loopbackMod : OfpFlowMod := labFlowMod (ofpActionOutput 1 0)

/- A packet from port 1 that this entry matches is neither sent nor released: execute_actions hands it to
dp_output_port with in_port 1 and out_port 1. -/
theorem loopbackOutputLeaks :
    (recvFlow chainCreate loopbackMod 0).error = none ∧
    (portInput 8 (labDatapath (recvFlow chainCreate loopbackMod 0).chain) 1 1500 labFrame).toOption.map (·.sent) =
      some [] ∧
    (portInputOwn 8 (labDatapath (recvFlow chainCreate loopbackMod 0).chain) 1 1500 labFrame).toOption.map Prod.snd =
      some (-1) := by
  refine ⟨by decide +kernel,by decide +kernel,by decide +kernel⟩

end Leak

end OpenFlow.Ownership
