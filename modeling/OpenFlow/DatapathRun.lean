import Mathlib
import OpenFlow.ControlInput
import OpenFlow.ChainRules
import OpenFlow.Lib.Simulation

/-! dp_run, the main loop of the user-space datapath (udatapath/datapath.c), as the things it does one at a
time: a new second runs the flow-table timeouts, a frame a port received goes through fwd_port_input, and
remote_run hands each message its controller connection delivered to fwd_control_input. -/
namespace OpenFlow.DatapathRun
open Actions Chain Execute FlowMod Datapath ControlInput Simulation

/- OFP_DEFAULT_MISS_SEND_LEN -/
def ofpDefaultMissSendLen : UInt16 := 128

/- The datapath dp_new leaves at the time it reads, before a port is added; the packet buffers are file-
static, so zero. -/
def dpNew (now nowMsec : UInt64) : Datapath :=
  { chain := chainCreate
    ports := []
    flags := 0
    missSendLen := ofpDefaultMissSendLen
    buffers := fun _ => ⟨none,0,0⟩
    bufferIdx := 0
    now
    nowMsec
    sent := [] }

/- A datapath whose ports report no name or features and whose queues no rate, with an of_ext_recv_msg that
takes every message and changes nothing. -/
def bareEnv : Env := ⟨0,fun _ => ⟨Vector.replicate 16 0,0,0,0,0,0⟩,fun _ _ => 0,fun dp _ => pure dp,0⟩

theorem bareEnvKeepsConfig : bareEnv.KeepsConfig := fun _ _ => SatisfiesM.pure rfl

/- dp_run's timeout pass: chain_timeout, then a FLOW_REMOVED for each entry it removed, with the reason the
entry recorded. -/
def dpTimeout (dp : Datapath) : Datapath :=
  let r := chainTimeout dp.chain dp.nowMsec
  r.1.foldl (fun dp flow => sendFlowEnd dp flow flow.reason) { dp with chain := r.2 }

/- What dp_run does, one thing at a time. -/
inductive Event where
  | tick (now nowMsec : UInt64)
  | frame (portNo : UInt16) (mtu : Nat) (frame : List UInt8)
  | control (msg : List UInt8)
  deriving DecidableEq, Repr

def dpStep (env : Env) (fuel : Nat) (dp : Datapath) : Event → Except Halt Datapath
  | .tick now nowMsec => pure (dpTimeout { dp with now,nowMsec })
  | .frame portNo mtu frame => portInput fuel dp portNo mtu frame
  | .control msg => Prod.fst <$> remoteRecv env fuel dp msg

def dpRun (env : Env) (fuel : Nat) (dp : Datapath) (events : List Event) : Except Halt Datapath :=
  events.foldlM (dpStep env fuel) dp

/-! The configuration register. -/

/- The configuration an event sets, if it is a message that reaches recv_set_config. -/
def Event.setConfig : Event → Option (UInt16 × UInt16)
  | .control msg => setConfigOf msg
  | _ => none

/- What a run leaves as the configuration: that of its last SET_CONFIG, or the one it started from. -/
def lastConfig (c : UInt16 × UInt16) (events : List Event) : UInt16 × UInt16 :=
  (events.filterMap Event.setConfig).getLast?.getD c

theorem lastConfigSnoc (c : UInt16 × UInt16) (events : List Event) (e : Event) :
    lastConfig c (events ++ [e]) = e.setConfig.getD (lastConfig c events) := by
  unfold lastConfig
  cases set : e.setConfig with
  | none => simp [set]
  | some c' => simp [set]

theorem lastConfigFrag {c : UInt16 × UInt16} (start : c.1 = ofpcFragNormal ∨ c.1 = ofpcFragDrop)
    (events : List Event) : (lastConfig c events).1 = ofpcFragNormal ∨ (lastConfig c events).1 = ofpcFragDrop := by
  unfold lastConfig
  cases last : (events.filterMap Event.setConfig).getLast? with
  | none => exact start
  | some c' =>
    obtain ⟨e,-,set⟩ := List.mem_filterMap.mp (List.mem_of_getLast? last)
    cases e with
    | control msg =>
      simp only [Event.setConfig,setConfigOf] at set
      split_ifs at set
      cases set
      exact fragModeCases _
    | tick => cases set
    | frame => cases set

section Step
variable (env : Env) (fuel : Nat)

theorem dpTimeoutConfig (dp : Datapath) : configOf (dpTimeout dp) = configOf dp :=
  sendFlowEndsKeep configOf (fun _ _ => rfl) SwFlow.reason _ _

theorem portInputConfig (dp : Datapath) (portNo : UInt16) (mtu : Nat) (frame : List UInt8) :
    SatisfiesM (fun dp' => configOf dp' = configOf dp) (portInput fuel dp portNo mtu frame) := by
  have run := (packetPathKeeps configOf (fun _ _ => rfl) saveBufferConfig (fun _ _ _ => rfl) fuel).2.2.1
  unfold portInput
  split
  · -- the frame goes through the tables; a miss goes up to the controller
    simp only [fwdPortInput]
    refine SatisfiesM.bind (run ..) ?_
    rintro ⟨miss,dp'⟩ same
    cases miss with
    | some buffer =>
      exact (dpOutputControlKeeps configOf (fun _ _ => rfl) saveBufferConfig ..).imp fun later => later.trans same
    | none => exact SatisfiesM.pure same
  · exact SatisfiesM.pure rfl

theorem dpStepConfig (keeps : env.KeepsConfig) (dp : Datapath) (e : Event) :
    SatisfiesM (fun dp' => configOf dp' = e.setConfig.getD (configOf dp)) (dpStep env fuel dp e) := by
  cases e with
  | tick now nowMsec => exact SatisfiesM.pure (dpTimeoutConfig _)
  | frame portNo mtu frame => exact portInputConfig fuel dp portNo mtu frame
  | control msg => exact (remoteRecvConfig env fuel dp msg keeps).map fun same => same

theorem dpRunConfig (keeps : env.KeepsConfig) (dp : Datapath) (events : List Event) :
    SatisfiesM (fun dp' => configOf dp' = lastConfig (configOf dp) events) (dpRun env fuel dp events) := by
  have run := foldlMHistory (fun done dp' => configOf dp' = lastConfig (configOf dp) done)
    (fun done dp' e same => (dpStepConfig env fuel keeps dp' e).imp fun set => by rw [set,same,lastConfigSnoc])
    events [] (rfl : configOf dp = lastConfig (configOf dp) [])
  rwa [List.nil_append] at run

/- A GET_CONFIG_REQUEST the controller sends after any run gets the flags and miss_send_len of the last
SET_CONFIG of the run, or those the datapath started with, under the request's xid. -/
theorem getConfigAfterRun (keeps : env.KeepsConfig) (dp : Datapath) (events : List Event) (xid : UInt32) :
    SatisfiesM (fun dp' => dp'.sent.getLast? = some (.controller (makeOpenflowXid ofptGetConfigReply xid
        (BigEndian.ofUInt16 (lastConfig (configOf dp) events).1 ++ BigEndian.ofUInt16 (lastConfig (configOf dp) events).2))))
      (dpRun env fuel dp (events ++ [.control (makeOpenflowXid ofptGetConfigRequest xid [])])) := by
  rw [dpRun,List.foldlM_append]
  refine SatisfiesM.bind (dpRunConfig env fuel keeps dp events) fun dp' same => ?_
  have answer : dpStep env fuel dp' (.control (makeOpenflowXid ofptGetConfigRequest xid [])) =
      pure (recvGetConfigRequest dp' xid) := by
    have reached : dispatch (makeOpenflowXid ofptGetConfigRequest xid []) = some .getConfigRequest :=
      dispatchBare xid rfl
    rw [dpStep,remoteRecvDispatched env fuel dp' reached]
    simp only [runHandler,makeOpenflowXidMsg,headerXidMsg]
    rfl
  rw [List.foldlM_cons,answer,pure_bind,List.foldlM_nil]
  refine SatisfiesM.pure ?_
  rw [← same]
  simp [recvGetConfigRequest,Datapath.send,configOf]

theorem getConfigAfterSetConfig :
    bareEnv.KeepsConfig ∧
      SatisfiesM (fun dp' => dp'.sent.getLast? = some (.controller (makeOpenflowXid ofptGetConfigReply 7
          (BigEndian.ofUInt16 (lastConfig (configOf (dpNew 0 0)) [.control (makeOpenflowXid ofptSetConfig 1 [0,2,0,64])]).1 ++
            BigEndian.ofUInt16 (lastConfig (configOf (dpNew 0 0)) [.control (makeOpenflowXid ofptSetConfig 1 [0,2,0,64])]).2))))
        (dpRun bareEnv 0 (dpNew 0 0)
          ([.control (makeOpenflowXid ofptSetConfig 1 [0,2,0,64])] ++ [.control (makeOpenflowXid ofptGetConfigRequest 7 [])])) :=
  ⟨bareEnvKeepsConfig,getConfigAfterRun bareEnv 0 bareEnvKeepsConfig (dpNew 0 0) _ 7⟩

/- A SET_CONFIG asking for REASM leaves DROP, and its miss_send_len. -/
example : lastConfig (configOf (dpNew 0 0)) [.control (makeOpenflowXid ofptSetConfig 1 [0,2,0,64])] = (ofpcFragDrop,64) := by
  decide

/- The fragment mode is NORMAL or DROP after any run, if it was at the start: a SET_CONFIG asking for REASM,
or for a mode no value names, gets DROP. -/
theorem fragModeAfterRun (keeps : env.KeepsConfig) (dp : Datapath)
    (start : dp.flags = ofpcFragNormal ∨ dp.flags = ofpcFragDrop) (events : List Event) :
    SatisfiesM (fun dp' => dp'.flags = ofpcFragNormal ∨ dp'.flags = ofpcFragDrop) (dpRun env fuel dp events) :=
  (dpRunConfig env fuel keeps dp events).imp fun same => by
    have frag := lastConfigFrag (c := configOf dp) start events
    rw [← same] at frag
    exact frag

theorem fragModeFromNew :
    bareEnv.KeepsConfig ∧ ((dpNew 0 0).flags = ofpcFragNormal ∨ (dpNew 0 0).flags = ofpcFragDrop) ∧
      SatisfiesM (fun dp' => dp'.flags = ofpcFragNormal ∨ dp'.flags = ofpcFragDrop)
        (dpRun bareEnv 0 (dpNew 0 0) [.control (makeOpenflowXid ofptSetConfig 1 [0,2,0,64]),.tick 1 1000]) :=
  ⟨bareEnvKeepsConfig,.inl rfl,fragModeAfterRun bareEnv 0 bareEnvKeepsConfig (dpNew 0 0) (.inl rfl) _⟩

/- A message the controller writes as a flow-mod, with its actions within the header's 16 bits of length, is
recv_flow of exactly that flow-mod. -/
theorem flowModDelivered (dp : Datapath) (xid : UInt32) (ofm : OfpFlowMod)
    (fits : ofpFlowModLen + ofm.actions.length < 65536) :
    dpStep env fuel dp (.control (ofpFlowModBytes xid ofm)) = recvFlowDp env fuel dp ofm := by
  rw [dpStep,remoteRecvDispatched env fuel dp (dispatchFlowMod xid ofm fits)]
  simp only [runHandler,readFlowModBytes xid ofm fits]
  cases recvFlowDp env fuel dp ofm <;> rfl

/- An ADD of an all-wildcard entry that outputs to port 1. -/
theorem flowModDeliveredAdd :
    ofpFlowModLen + (ofpActionOutput 1 0).length < 65536 ∧
      dpStep bareEnv 0 (dpNew 0 0)
          (.control (ofpFlowModBytes 3 ⟨ChainRules.matchAll,0,ofpfcAdd,0,0,0,0xffffffff,0xffff,0,ofpActionOutput 1 0⟩)) =
        recvFlowDp bareEnv 0 (dpNew 0 0) ⟨ChainRules.matchAll,0,ofpfcAdd,0,0,0,0xffffffff,0xffff,0,ofpActionOutput 1 0⟩ :=
  ⟨by decide,flowModDelivered bareEnv 0 (dpNew 0 0) 3 _ (by decide)⟩

end Step

/-! Requests and their answers. -/

section Requests
variable (env : Env) (fuel : Nat) (dp : Datapath)

end Requests

end OpenFlow.DatapathRun
