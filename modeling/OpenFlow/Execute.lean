import OpenFlow.Actions
import OpenFlow.Packet
import OpenFlow.Csum
import OpenFlow.SwFlow

/-! Executing actions on a packet (udatapath/dp_act.c): the set-field actions, which rewrite the buffer and
the key, and the loop of execute_actions, which leaves what an output does to a callback (do_output, in the
datapath). -/
namespace OpenFlow
open Actions WhileLoop

inductive Halt where
  | assertFailed
  | nullDeref
  | outOfBounds
  | outOfFuel
  | outOfMemory
  deriving DecidableEq, Repr

namespace Execute

def deref : Option Nat → Except Halt Nat
  | some p => .ok p
  | none => .error .nullDeref

/- ofpbuf_push_uninit, whose ofpbuf_prealloc_headroom asserts the room is there. -/
def pushUninit (b : Ofpbuf) (size : Nat) : Except Halt Ofpbuf :=
  match ofpbufPushUninit b size with
  | some b => .ok b
  | none => .error .assertFailed

/- packets.h -/
def vlanVidMask : UInt16 := 0x0fff
def vlanPcpMask : UInt16 := 0xe000
def vlanPcpShift : UInt16 := 13
def vlanPcpBitmask : UInt16 := 0x0007

/- Sets the TCI bits of `mask`, inserting a tag in front of the frame's type when the key says there is none;
the key then takes its VLAN fields from the tag. -/
def modifyVlanTci (buffer : Ofpbuf) (key : SwFlowKey) (tci mask : UInt16) :
    Except Halt (Ofpbuf × SwFlowKey) := do
  let l2 ← deref buffer.l2
  let (buffer,veh) ←
    if key.flow.dlVlan ≠ ofpVlanNone then
      pure (buffer.put16At (l2 + 14) ((buffer.get16At (l2 + 14) &&& ~~~mask) ||| tci),l2)
    else
      let tmp := buffer.bytesAt l2 12 ++ BigEndian.ofUInt16 ethTypeVlan ++ BigEndian.ofUInt16 tci ++
        buffer.bytesAt (l2 + 12) 2
      let buffer ← pushUninit buffer vlanHeaderLen
      pure ({ buffer.write buffer.data tmp with l2 := some (l2 - vlanHeaderLen) },buffer.data)
  let vethTci := buffer.get16At (veh + 14)
  pure (buffer,{ key with flow := { key.flow with
    dlVlan := vethTci &&& vlanVidMask
    dlVlanPcp := ((vethTci >>> vlanPcpShift) &&& vlanPcpBitmask).toUInt8 } })

/- Removes the tag, if the frame has one, by moving the addresses up over it. -/
def vlanPullTag (buffer : Ofpbuf) : Except Halt Ofpbuf := do
  let l2 ← deref buffer.l2
  if buffer.get16At (l2 + 12) = ethTypeVlan then
    let tmp := buffer.bytesAt l2 12 ++ buffer.bytesAt (l2 + 16) 2
    let buffer := { buffer with
      size := buffer.size - vlanHeaderLen
      data := buffer.data + vlanHeaderLen
      l2 := some (l2 + vlanHeaderLen) }
    pure (buffer.write buffer.data tmp)
  else pure buffer

def setVlanVid (buffer : Ofpbuf) (key : SwFlowKey) (acts : List UInt8) (p : Nat) :
    Except Halt (Ofpbuf × SwFlowKey) :=
  modifyVlanTci buffer key (BigEndian.get16 acts (p + 4)) vlanVidMask

def setVlanPcp (buffer : Ofpbuf) (key : SwFlowKey) (acts : List UInt8) (p : Nat) :
    Except Halt (Ofpbuf × SwFlowKey) :=
  modifyVlanTci buffer key ((acts.getD (p + 4) 0).toUInt16 <<< 13) vlanPcpMask

def stripVlan (buffer : Ofpbuf) (key : SwFlowKey) : Except Halt (Ofpbuf × SwFlowKey) := do
  let buffer ← vlanPullTag buffer
  pure (buffer,{ key with flow := { key.flow with dlVlan := ofpVlanNone } })

def setDlAddr (buffer : Ofpbuf) (acts : List UInt8) (p : Nat) : Except Halt Ofpbuf := do
  let l2 ← deref buffer.l2
  let addr := (acts.drop (p + 4)).take 6
  if actionType acts p = ofpatSetDlSrc then pure (buffer.write (l2 + 6) addr)
  else pure (buffer.write l2 addr)

/- The IP checksum always follows the address; a TCP checksum too, and a UDP checksum only when one was
computed (0 means none, and a result of 0 is sent as 0xffff). -/
/- &nh->ip_src or &nh->ip_dst, by the action's type. -/
def nwAddrField (acts : List UInt8) (p l3 : Nat) : Nat :=
  if actionType acts p = ofpatSetNwSrc then l3 + 12 else l3 + 16

def setNwAddr (buffer : Ofpbuf) (key : SwFlowKey) (acts : List UInt8) (p : Nat) : Except Halt Ofpbuf := do
  if key.flow.dlType = ethTypeIp then
    let l3 ← deref buffer.l3
    let new := LittleEndian.get32 acts (p + 4)
    let field := nwAddrField acts p l3
    let old := buffer.load32At field
    let buffer ←
      if key.flow.nwProto = ipTypeTcp then do
        let l4 ← deref buffer.l4
        pure (buffer.store16At (l4 + 16) (recalcCsum32 (buffer.load16At (l4 + 16)) old new))
      else if key.flow.nwProto = ipTypeUdp then do
        let l4 ← deref buffer.l4
        let udpCsum := buffer.load16At (l4 + 6)
        if udpCsum ≠ 0 then
          let udpCsum := recalcCsum32 udpCsum old new
          pure (buffer.store16At (l4 + 6) (if udpCsum = 0 then 0xffff else udpCsum))
        else pure buffer
      else pure buffer
    let buffer := buffer.store16At (l3 + 10) (recalcCsum32 (buffer.load16At (l3 + 10)) old new)
    pure (buffer.store32At field new)
  else pure buffer

/- Only the six ToS bits change, and the two ECN bits stay. -/
def nwTosByte (old tos : UInt8) : UInt8 := (tos &&& 0xfc) ||| (old &&& 0x03)

/- htons((uint16_t)tos), as recalc_csum32 is handed it. -/
def tosWord (tos : UInt8) : UInt32 := (LittleEndian.swap16 tos.toUInt16).toUInt32

def setNwTos (buffer : Ofpbuf) (key : SwFlowKey) (acts : List UInt8) (p : Nat) : Except Halt Ofpbuf := do
  if key.flow.dlType = ethTypeIp then
    let l3 ← deref buffer.l3
    let old := buffer.byteAt (l3 + 1)
    let new := nwTosByte old (acts.getD (p + 4) 0)
    let buffer := buffer.store16At (l3 + 10) (recalcCsum32 (buffer.load16At (l3 + 10)) (tosWord old) (tosWord new))
    pure (buffer.write (l3 + 1) [new])
  else pure buffer

/- The two branches of set_tp_port: a port at `field` and the checksum at `csumAt`, which is updated whatever
it holds. -/
def rewriteTpPort (buffer : Ofpbuf) (field csumAt : Nat) (new : UInt16) : Ofpbuf :=
  let buffer := buffer.store16At csumAt (recalcCsum16 (buffer.load16At csumAt) (buffer.load16At field) new)
  buffer.store16At field new

/- &th->tcp_src or &th->tcp_dst (udp_src, udp_dst), by the action's type. -/
def tpPortField (acts : List UInt8) (p l4 : Nat) : Nat :=
  if actionType acts p = ofpatSetTpSrc then l4 else l4 + 2

def setTpPort (buffer : Ofpbuf) (key : SwFlowKey) (acts : List UInt8) (p : Nat) : Except Halt Ofpbuf := do
  if key.flow.dlType = ethTypeIp then
    let new := LittleEndian.get16 acts (p + 4)
    if key.flow.nwProto = ipTypeTcp then
      let l4 ← deref buffer.l4
      pure (rewriteTpPort buffer (tpPortField acts p l4) (l4 + 16) new)
    else if key.flow.nwProto = ipTypeUdp then
      let l4 ← deref buffer.l4
      pure (rewriteTpPort buffer (tpPortField acts p l4) (l4 + 6) new)
    else pure buffer
  else pure buffer

/- The execute column of of_actions[]; OUTPUT and ENQUEUE have none. -/
def executeOfpat (buffer : Ofpbuf) (key : SwFlowKey) (acts : List UInt8) (p : Nat) (type : UInt16) :
    Except Halt (Ofpbuf × SwFlowKey) :=
  let keep (r : Except Halt Ofpbuf) : Except Halt (Ofpbuf × SwFlowKey) := r.map (·,key)
  if type = ofpatSetVlanVid then setVlanVid buffer key acts p
  else if type = ofpatSetVlanPcp then setVlanPcp buffer key acts p
  else if type = ofpatStripVlan then stripVlan buffer key
  else if type = ofpatSetDlSrc ∨ type = ofpatSetDlDst then keep (setDlAddr buffer acts p)
  else if type = ofpatSetNwSrc ∨ type = ofpatSetNwDst then keep (setNwAddr buffer key acts p)
  else if type = ofpatSetNwTos then keep (setNwTos buffer key acts p)
  else if type = ofpatSetTpSrc ∨ type = ofpatSetTpDst then keep (setTpPort buffer key acts p)
  else pure (buffer,key)

/- The variables of the loop of execute_actions besides its cursor: the buffer and key the actions rewrite,
and the pending output (prev_port, prev_queue, max_len), which is only done once the next action is seen. -/
structure LoopState where
  buffer : Ofpbuf
  key : SwFlowKey
  prev : Option (UInt16 × UInt32)
  maxLen : UInt16

/- What do_output is given: the datapath, the copy to send, in_port, max_len, the port and the queue. -/
abbrev DoOutput (σ : Type) := σ → Ofpbuf → UInt16 → UInt16 → UInt16 → UInt32 → Except Halt σ

section
variable {σ : Type} (out : DoOutput σ) (acts : List UInt8) (inPort : UInt16)

/- The body of the loop for the action at `p`. -/
def executeStep (dp : σ) (st : LoopState) (p : Nat) : Except Halt (σ × LoopState) := do
  let dp ← match st.prev with
    | some (port,queue) => out dp (ofpbufClone st.buffer) inPort st.maxLen port queue
    | none => pure dp
  let st := { st with prev := none }
  let type := actionType acts p
  if type = ofpatOutput then
    pure (dp,{ st with prev := some (outputPort acts p,0),maxLen := outputMaxLen acts p })
  else if type = ofpatEnqueue then
    pure (dp,{ st with prev := some (outputPort acts p,enqueueQueueId acts p),maxLen := 0 })
  else if type < ofActionsSize then do
    let (buffer,key) ← executeOfpat st.buffer st.key acts p type
    pure (dp,{ st with buffer,key })
  else pure (dp,st)

/- The loop from offset `p` with `rem` bytes left. -/
def executeLoop : Nat → σ → LoopState → Nat → Nat → Except Halt (σ × LoopState)
  | 0, _, _, _, _ => .error .outOfFuel
  | steps + 1, dp, st, p, rem =>
    if rem = 0 then .ok (dp,st)
    else if rem < actionHeaderLen then .error .outOfBounds
    else do
      let (dp,st) ← executeStep out acts inPort dp st p
      let len := actionLen acts p
      if rem < len then .error .outOfBounds
      else executeLoop steps dp st (p + len) (rem - len)

/- After the loop the last pending output takes the buffer itself; with none pending the buffer is freed. -/
def lastOutput (dp : σ) (st : LoopState) : Except Halt σ :=
  match st.prev with
  | some (port,queue) => out dp st.buffer inPort st.maxLen port queue
  | none => pure dp

/- execute_actions, with `in_port` read from the key before any action runs. -/
def executeActionsWith (dp : σ) (buffer : Ofpbuf) (key : SwFlowKey) (actionsLen : Nat) : Except Halt σ := do
  let (dp,st) ← executeLoop out acts key.flow.inPort (actionsLen + 1) dp ⟨buffer,key,none,0xffff⟩ 0 actionsLen
  lastOutput out key.flow.inPort dp st

theorem executeLoopDone (steps : Nat) (dp : σ) (st : LoopState) (p : Nat) :
    executeLoop out acts inPort (steps + 1) dp st p 0 = .ok (dp,st) := by
  simp [executeLoop]

theorem executeLoopStep {steps : Nat} {dp : σ} {st : LoopState} {p rem : Nat}
    (header : actionHeaderLen ≤ rem) (fits : actionLen acts p ≤ rem) :
    executeLoop out acts inPort (steps + 1) dp st p rem =
      (executeStep out acts inPort dp st p).bind fun r =>
        executeLoop out acts inPort steps r.1 r.2 (p + actionLen acts p) (rem - actionLen acts p) := by
  have live : rem ≠ 0 := by unfold actionHeaderLen at header; omega
  simp only [executeLoop,live,Nat.not_lt.mpr header,Nat.not_lt.mpr fits,if_false]
  rfl

theorem executeLoopTiles {steps : Nat} {dp : σ} {st : LoopState} {p rem : Nat} {offs : List Nat}
    (tiles : Tiles (actionLen acts) p rem offs) (long : ∀ o ∈ offs, actionHeaderLen ≤ actionLen acts o)
    (enough : offs.length < steps) :
    executeLoop out acts inPort steps dp st p rem =
      offs.foldlM (fun r o => executeStep out acts inPort r.1 r.2 o) (dp,st) := by
  induction tiles generalizing steps dp st with
  | done off =>
    obtain ⟨steps,rfl⟩ : ∃ s, steps = s + 1 := ⟨steps - 1,by simp at enough; omega⟩
    rw [executeLoopDone]
    rfl
  | next pos fits rest ih =>
    rename_i off rem offs
    obtain ⟨steps,rfl⟩ : ∃ s, steps = s + 1 := ⟨steps - 1,by omega⟩
    have header := long off List.mem_cons_self
    rw [executeLoopStep out acts inPort (header.trans fits) fits,List.foldlM_cons]
    cases executeStep out acts inPort dp st off with
    | error e => rfl
    | ok r =>
      exact ih (fun o mem => long o (List.mem_cons_of_mem off mem)) (by simp at enough; omega)

theorem executeStepPending {dp : σ} {st : LoopState} {p : Nat} {port : UInt16} {queue : UInt32}
    (pending : st.prev = some (port,queue)) :
    executeStep out acts inPort dp st p =
      (out dp (ofpbufClone st.buffer) inPort st.maxLen port queue).bind fun dp =>
        executeStep out acts inPort dp { st with prev := none } p := by
  simp only [executeStep,pending]
  rfl

theorem executeStepOutput {dp : σ} {st : LoopState} {p : Nat}
    (idle : st.prev = none) (output : actionType acts p = ofpatOutput) :
    executeStep out acts inPort dp st p =
      .ok (dp,{ st with prev := some (outputPort acts p,0),maxLen := outputMaxLen acts p }) := by
  simp only [executeStep,idle,output]
  rfl

theorem executeActionsWithOne (dp : σ) (buffer : Ofpbuf) (key : SwFlowKey) (port maxLen : UInt16) :
    executeActionsWith out (ofpActionOutput port maxLen) dp buffer key 8 =
      out dp buffer key.flow.inPort maxLen port 0 := by
  obtain ⟨type,len,-,-⟩ := readOfpActionOutput [] [] port maxLen
  simp only [List.nil_append,List.append_nil,List.length_nil] at type len
  simp only [executeActionsWith]
  rw [executeLoopStep out _ _ (by decide) (by rw [len]),executeStepOutput out _ _ rfl type]
  simp only [len]
  rw [Except.bind,executeLoopDone]
  obtain ⟨-,-,toPort,toMax⟩ := readOfpActionOutput [] [] port maxLen
  simp only [List.nil_append,List.append_nil,List.length_nil] at toPort toMax
  simp only [toPort,toMax]
  rfl

theorem executeActionsWithTwo (dp : σ) (buffer : Ofpbuf) (key : SwFlowKey) (port maxLen port' maxLen' : UInt16) :
    executeActionsWith out (ofpActionOutput port maxLen ++ ofpActionOutput port' maxLen') dp buffer key 16 =
      (out dp (ofpbufClone buffer) key.flow.inPort maxLen port 0).bind fun dp =>
        out dp buffer key.flow.inPort maxLen' port' 0 := by
  obtain ⟨type,len,toPort,toMax⟩ := readOfpActionOutput [] (ofpActionOutput port' maxLen') port maxLen
  obtain ⟨type',len',toPort',toMax'⟩ := readOfpActionOutput (ofpActionOutput port maxLen) [] port' maxLen'
  simp only [List.nil_append,List.append_nil,List.length_nil,lengthOfpActionOutput] at *
  simp only [executeActionsWith]
  rw [executeLoopStep out _ _ (by decide) (by rw [len]; decide),executeStepOutput out _ _ rfl type]
  simp only [len,Except.bind,toPort,toMax]
  rw [executeLoopStep out _ _ (by decide) (by rw [len']),executeStepPending out _ _ rfl]
  cases out dp (ofpbufClone buffer) key.flow.inPort maxLen port 0 with
  | error e => rfl
  | ok dp =>
    simp only [Except.bind]
    rw [executeStepOutput out _ _ rfl type']
    simp only [len']
    rw [executeLoopDone]
    simp only [toPort',toMax']
    rfl

end

/- A list validate_actions accepts splits into consecutive actions, each at least a header long, a multiple of
8 and inside the list, which fill it. -/
theorem validatedActionsWalk {key : SwFlowKey} {acts : List UInt8}
    (ok : validateActions key acts acts.length = actValidationOk) :
    ∃ offs : List Nat, Tiles (actionLen acts) 0 acts.length offs ∧
      (∀ o ∈ offs, 8 ≤ actionLen acts o ∧ actionLen acts o % 8 = 0 ∧ o + actionLen acts o ≤ acts.length) ∧
      (offs.map (actionLen acts)).sum = acts.length ∧
      (∀ (σ : Type) (out : DoOutput σ) (dp : σ) (buffer : Ofpbuf) (k : SwFlowKey),
        executeActionsWith out acts dp buffer k acts.length =
          (offs.foldlM (fun r o => executeStep out acts k.flow.inPort r.1 r.2 o) (dp,⟨buffer,k,none,0xffff⟩)).bind
            fun r => lastOutput out k.flow.inPort r.1 r.2) ∧
      ∀ (flow : SwFlow) (outPort : UInt16), flow.actions = acts →
        flowHasOutPort flow outPort = (outPort == ofppNone || offs.any (outputsTo acts outPort)) := by
  obtain ⟨offs,tiles,sizes⟩ := validateTiles 0 acts.length ok
  have enough : offs.length < acts.length + 1 := Nat.lt_succ_of_le (tilesLengthLe tiles)
  refine ⟨offs,tiles,?_,tilesSum tiles,?_,?_⟩
  · intro o mem
    obtain ⟨long,aligned⟩ := sizes o mem
    obtain ⟨-,-,inside⟩ := tilesWithin tiles o mem
    exact ⟨long,aligned,by simpa using inside⟩
  · intro σ out dp buffer k
    have long : ∀ o ∈ offs, actionHeaderLen ≤ actionLen acts o := fun o mem => (sizes o mem).1
    simp only [executeActionsWith]
    rw [executeLoopTiles out acts k.flow.inPort tiles long enough]
    rfl
  · intro flow outPort stored
    have scan : (run outPortScanLive (outPortScanBody acts outPort) (acts.length + 1)
        ⟨⟨0,acts.length⟩,false⟩).map (·.found) = some (offs.any (outputsTo acts outPort)) :=
      outPortScanTiles tiles enough
    unfold flowHasOutPort
    by_cases none : outPort = ofppNone
    · simp [none]
    · rw [stored]
      cases found : run outPortScanLive (outPortScanBody acts outPort) (acts.length + 1) ⟨⟨0,acts.length⟩,false⟩ with
      | none => simp [found] at scan
      | some s =>
        simp only [found,Option.map_some,Option.some.injEq] at scan
        simp [none,scan]

/- Outputs to port 2 and to port 3, on a key that wildcards everything. -/
def outputsTwoThree : List UInt8 := ofpActionOutput 2 0 ++ ofpActionOutput 3 0

theorem outputActionWalk :
    validateActions (flowExtractMatch ⟨ofpfwAll,0,#v[0,0,0,0,0,0],#v[0,0,0,0,0,0],0,0,0,0,0,0,0,0,0⟩)
        outputsTwoThree outputsTwoThree.length = actValidationOk ∧
    ∃ offs : List Nat, Tiles (actionLen outputsTwoThree) 0 outputsTwoThree.length offs ∧
      (∀ o ∈ offs, 8 ≤ actionLen outputsTwoThree o ∧ actionLen outputsTwoThree o % 8 = 0 ∧
        o + actionLen outputsTwoThree o ≤ outputsTwoThree.length) ∧
      (offs.map (actionLen outputsTwoThree)).sum = outputsTwoThree.length ∧
      (∀ (σ : Type) (out : DoOutput σ) (dp : σ) (buffer : Ofpbuf) (k : SwFlowKey),
        executeActionsWith out outputsTwoThree dp buffer k outputsTwoThree.length =
          (offs.foldlM (fun r o => executeStep out outputsTwoThree k.flow.inPort r.1 r.2 o)
            (dp,⟨buffer,k,none,0xffff⟩)).bind fun r => lastOutput out k.flow.inPort r.1 r.2) ∧
      ∀ (flow : SwFlow) (outPort : UInt16), flow.actions = outputsTwoThree →
        flowHasOutPort flow outPort = (outPort == ofppNone || offs.any (outputsTo outputsTwoThree outPort)) :=
  have ok : validateActions (flowExtractMatch ⟨ofpfwAll,0,#v[0,0,0,0,0,0],#v[0,0,0,0,0,0],0,0,0,0,0,0,0,0,0⟩)
      outputsTwoThree outputsTwoThree.length = actValidationOk := by decide +kernel
  ⟨ok,validatedActionsWalk ok⟩

/- Outputs to port 1 and to port 2. -/
def twoOutputs : List UInt8 := ofpActionOutput 1 0 ++ ofpActionOutput 2 0

theorem hasOutPortStopsEarly :
    validateActions (flowExtractMatch ⟨ofpfwAll,0,#v[0,0,0,0,0,0],#v[0,0,0,0,0,0],0,0,0,0,0,0,0,0,0⟩)
        twoOutputs twoOutputs.length = actValidationOk ∧
      Tiles (actionLen twoOutputs) 0 twoOutputs.length [0,8] ∧
      ExitsAfter outPortScanLive (outPortScanBody twoOutputs 1) ⟨⟨0,twoOutputs.length⟩,false⟩ 1 ∧
      ¬ ExitsAfter outPortScanLive (outPortScanBody twoOutputs 1) ⟨⟨0,twoOutputs.length⟩,false⟩ 2 := by
  have once : ExitsAfter outPortScanLive (outPortScanBody twoOutputs 1) ⟨⟨0,twoOutputs.length⟩,false⟩ 1 := by
    refine ⟨fun k before => ?_,by decide⟩
    obtain rfl : k = 0 := by omega
    decide
  refine ⟨by decide +kernel,?_,once,fun twice => absurd (exitsAfterUnique once twice) (by decide)⟩
  exact .next (by decide) (by decide) (.next (by decide) (by decide) (.done _))

end Execute
end OpenFlow
