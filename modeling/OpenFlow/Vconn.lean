import Mathlib
import OpenFlow.Lib.WhileLoop
import OpenFlow.Lib.StepSystem
import OpenFlow.Lib.CText
import OpenFlow.Lib.ByteOrder

/-! The connection layer of lib/vconn.c over any vconn class: the states a vconn goes through from vconn_init
to CONNECTED or DISCONNECTED (completing the connection, sending and receiving OFPT_HELLO, sending the
OFPT_ERROR of a failed version negotiation), the loop of vconn_connect, and vconn_recv and vconn_send with the
version filter of do_recv. -/
namespace OpenFlow
open WhileLoop StepSystem CText
namespace Vconn

/- enum vconn_state -/
inductive State where
  | connecting
  | sendHello
  | recvHello
  | connected
  | sendError
  | disconnected
  deriving DecidableEq, Repr

/- How far along the connection is: the loop of vconn_connect only moves a vconn to a later state. -/
def State.rank : State → Nat
  | .connecting => 0
  | .sendHello => 1
  | .recvHello => 2
  | .connected => 3
  | .sendError => 3
  | .disconnected => 4

def ofpVersion : UInt8 := 1

/- enum ofp_type, the types vconn.c names -/
def ofptHello : UInt8 := 0
def ofptError : UInt8 := 1
def ofptEchoRequest : UInt8 := 2
def ofptEchoReply : UInt8 := 3
def ofptVendor : UInt8 := 4
def ofptPacketIn : UInt8 := 10
def ofptFlowRemoved : UInt8 := 11
def ofptPortStatus : UInt8 := 12

def ofpetHelloFailed : UInt16 := 0
def ofphfcIncompatible : UInt16 := 0

/- errno values of Linux -/
def eagain : Int := 11
def eproto : Int := 71
def eafnosupport : Int := 97
def einprogress : Int := 115

@[simp] theorem eagainNe : eagain ≠ 0 := by decide
@[simp] theorem zeroNeEagain : (0 : Int) ≠ eagain := by decide
@[simp] theorem eprotoNe : eproto ≠ 0 := by decide
@[simp] theorem eprotoNeEagain : eproto ≠ eagain := by decide

/- What a call returns when it fails: a positive errno value, or EOF. -/
def Errno := {e : Int // e ≠ 0}

instance : DecidableEq Errno := inferInstanceAs (DecidableEq {e : Int // e ≠ 0})

def eagainErr : Errno := ⟨eagain,by decide⟩
def eprotoErr : Errno := ⟨eproto,by decide⟩

/- An OpenFlow message: its header's version, type and xid, and the bytes after the header; the header's
length is the message's size. -/
structure Msg where
  version : UInt8
  type : UInt8
  xid : UInt32
  body : List UInt8
  deriving DecidableEq, Repr

/- struct ofpstat, the counters vconn.c moves: ofps_total, ofps_hello, ofps_error, ofps_error_type.hello_fail
and ofps_error_code.hf_incompat. -/
structure Ofpstat where
  total : Nat
  hello : Nat
  error : Nat
  helloFail : Nat
  hfIncompat : Nat
  deriving DecidableEq, Repr

def Ofpstat.zero : Ofpstat := ⟨0,0,0,0,0⟩

def Ofpstat.countHello (s : Ofpstat) : Ofpstat := { s with total := s.total + 1,hello := s.hello + 1 }

def Ofpstat.countHelloFailed (s : Ofpstat) : Ofpstat :=
  { s with total := s.total + 1,error := s.error + 1,helloFail := s.helloFail + 1,hfIncompat := s.hfIncompat + 1 }

end Vconn

/- struct vconn, the fields vconn.c reads and writes; `wire` is the model's log of the messages the class has
taken. -/
structure Vconn where
  state : Vconn.State
  error : Int
  minVersion : Int
  version : Int
  rcvd : Vconn.Ofpstat
  sent : Vconn.Ofpstat
  wire : List Vconn.Msg
  deriving DecidableEq, Repr

namespace Vconn

/- struct vconn_class, the calls vconn.c makes, over the state `κ` of the connection; `random` is
random_uint32, and `backlog` bounds the messages recv returns before it answers otherwise. Its connect
reports a connection still in progress as EAGAIN, never EINPROGRESS, as vconn-provider.h requires. -/
structure VconnClass (κ : Type) where
  connect : κ → Int × κ
  recv : κ → Except Errno Msg × κ
  send : κ → Msg → Int × κ
  random : κ → UInt32 × κ
  backlog : κ → Nat
  recvDrains : ∀ k m k', recv k = (.ok m,k') → backlog k' < backlog k
  connectSettles : ∀ k, (connect k).1 ≠ einprogress

/- vconn_init, with the status of the class's connect. -/
def vconnInit (connectStatus : Int) : Vconn :=
  { state := if connectStatus = eagain then .connecting else if connectStatus = 0 then .sendHello else .disconnected
    error := connectStatus
    minVersion := -1
    version := -1
    rcvd := Ofpstat.zero
    sent := Ofpstat.zero
    wire := [] }

/- vconn_open: the class named before the first ':' of `name` among `classes`, and what its open returned, an
errno or the connect status it passed to vconn_init. -/
def vconnOpen (classes : List (List Char)) (name : List Char) (minVersion : Int) (opened : Except Errno Int) :
    Int × Option Vconn :=
  let kind := name.takeWhile (· ≠ ':')
  if kind.length = name.length then (eafnosupport,none)
  else if kind ∈ classes then
    match opened with
    | .error retval => (retval.1,none)
    | .ok status => (0,some { vconnInit status with minVersion })
  else (eafnosupport,none)

/- pvconn_accept, with what the class's accept returned. -/
def pvconnAccept (minVersion : Int) (accepted : Except Errno Int) : Int × Option Vconn :=
  match accepted with
  | .error retval => (retval.1,none)
  | .ok status => (0,some { vconnInit status with minVersion })

/- make_openflow(sizeof(struct ofp_header), OFPT_HELLO) -/
def makeHello (xid : UInt32) : Msg := ⟨ofpVersion,ofptHello,xid,[]⟩

/- The text vcs_send_error puts after the error's type and code. -/
def helloFailedText (minVersion version : Int) : List Char :=
  "We support versions 0x".toList ++ hexWidth 2 minVersion.toNat ++ " to 0x".toList ++
    hexWidth 2 ofpVersion.toNat ++ " inclusive but you support no later than version 0x".toList ++
    hexWidth 2 version.toNat ++ ".".toList

/- The OFPT_ERROR of vcs_send_error: OFPET_HELLO_FAILED, OFPHFC_INCOMPATIBLE and the text. -/
def makeHelloFailed (xid : UInt32) (minVersion version : Int) : Msg :=
  ⟨ofpVersion,ofptError,xid,BigEndian.ofUInt16 ofpetHelloFailed ++ BigEndian.ofUInt16 ofphfcIncompatible ++
    (helloFailedText minVersion version).map fun c => c.toNat.toUInt8⟩

/- The types do_recv passes whatever their version. -/
def versionFree (type : UInt8) : Bool :=
  type == ofptHello || type == ofptError || type == ofptEchoRequest || type == ofptEchoReply || type == ofptVendor

def isAsync (type : UInt8) : Bool :=
  type == ofptPacketIn || type == ofptFlowRemoved || type == ofptPortStatus

/- What do_recv passes to its caller: the vconn's version, or a type that is version-free. -/
def accepts (version : Int) (m : Msg) : Bool := (m.version.toNat : Int) == version || versionFree m.type

/- A vconn moved to DISCONNECTED with an error that is neither 0 nor EAGAIN. -/
def Fails (v v' : Vconn) : Prop := ∃ e, e ≠ 0 ∧ e ≠ eagain ∧ v' = { v with state := .disconnected,error := e }

section Class
variable {κ : Type} (cls : VconnClass κ)

/- vcs_connecting; its assert(retval != EINPROGRESS) is `connectSettles`. -/
def vcsConnecting (v : Vconn) (k : κ) : Vconn × κ :=
  let r := cls.connect k
  if r.1 = 0 then ({ v with state := .sendHello },r.2)
  else if r.1 ≠ eagain then ({ v with state := .disconnected,error := r.1 },r.2)
  else (v,r.2)

/- do_send: the class's answer; a message it took goes on the wire. -/
def doSend (v : Vconn) (k : κ) (msg : Msg) : Int × Vconn × κ :=
  let r := cls.send k msg
  (r.1,if r.1 = 0 then { v with wire := v.wire ++ [msg] } else v,r.2)

def vcsSendHello (v : Vconn) (k : κ) : Vconn × κ :=
  let x := cls.random k
  let r := doSend cls v x.2 (makeHello x.1)
  if r.1 = 0 then ({ r.2.1 with sent := r.2.1.sent.countHello,state := .recvHello },r.2.2)
  else if r.1 ≠ eagain then ({ r.2.1 with state := .disconnected,error := r.1 },r.2.2)
  else (r.2.1,r.2.2)

/- One pass of do_recv from its label `again`: a message do_recv does not accept is skipped when it is
asynchronous and no version is negotiated yet, and refused with EPROTO otherwise. -/
def recvPass (version : Int) (k : κ) : (Except Errno Msg × κ) ⊕ κ :=
  match cls.recv k with
  | (.ok m,k) =>
    if accepts version m then .inl (.ok m,k)
    else if version < 0 ∧ isAsync m.type then .inr k
    else .inl (.error eprotoErr,k)
  | (.error e,k) => .inl (.error e,k)

/- do_recv; its loop ends within the class's backlog (doRecvPasses). -/
def doRecv (version : Int) (k : κ) : Except Errno Msg × κ :=
  (passes (recvPass cls version) (cls.backlog k + 1) k).getD (.error eagainErr,k)

/- vcs_recv_hello. -/
def vcsRecvHello (v : Vconn) (k : κ) : Vconn × κ :=
  let r := doRecv cls v.version k
  match r.1 with
  | .ok m =>
    if m.type = ofptHello then
      let version : Int := min (ofpVersion.toNat : Int) m.version.toNat
      ({ v with version,state := if version < v.minVersion then .sendError else .connected,
                rcvd := v.rcvd.countHello },r.2)
    else ({ v with state := .disconnected,error := eproto },r.2)
  | .error e => if e.1 ≠ eagain then ({ v with state := .disconnected,error := e.1 },r.2) else (v,r.2)

/- vcs_send_error. -/
def vcsSendError (v : Vconn) (k : κ) : Vconn × κ :=
  let x := cls.random k
  let r := doSend cls v x.2 (makeHelloFailed x.1 v.minVersion v.version)
  let v := if r.1 ≠ 0 then { r.2.1 with sent := r.2.1.sent.countHelloFailed } else r.2.1
  if r.1 ≠ eagain then ({ v with state := .disconnected,error := if r.1 ≠ 0 then r.1 else eproto },r.2.2)
  else (v,r.2.2)

end Class

/- The test of vconn_connect's loop after a handler: EAGAIN if the state stayed. -/
def loopTest {κ : Type} (last : State) (s : Vconn × κ) : (Int × Vconn × κ) ⊕ (Vconn × κ) :=
  if s.1.state = last then .inl (eagain,s) else .inr s

section Class
variable {κ : Type} (cls : VconnClass κ)

/- One pass of the loop of vconn_connect: CONNECTED returns 0 and DISCONNECTED the error; another state runs
its handler. -/
def connectPass (s : Vconn × κ) : (Int × Vconn × κ) ⊕ (Vconn × κ) :=
  match s.1.state with
  | .connecting => loopTest .connecting (vcsConnecting cls s.1 s.2)
  | .sendHello => loopTest .sendHello (vcsSendHello cls s.1 s.2)
  | .recvHello => loopTest .recvHello (vcsRecvHello cls s.1 s.2)
  | .connected => .inl (0,s)
  | .sendError => loopTest .sendError (vcsSendError cls s.1 s.2)
  | .disconnected => .inl (s.1.error,s)

/- vconn_connect; five passes are always enough (connectReturns). -/
def vconnConnect (v : Vconn) (k : κ) : Int × Vconn × κ :=
  (passes (connectPass cls) 5 (v,k)).getD (eagain,v,k)

def vconnRecv (v : Vconn) (k : κ) : Except Errno Msg × Vconn × κ :=
  let c := vconnConnect cls v k
  if h : c.1 = 0 then
    let r := doRecv cls c.2.1.version c.2.2
    (r.1,c.2.1,r.2)
  else (.error ⟨c.1,h⟩,c.2)

def vconnSend (v : Vconn) (k : κ) (msg : Msg) : Int × Vconn × κ :=
  let c := vconnConnect cls v k
  if c.1 = 0 then doSend cls c.2.1 c.2.2 msg else c

end Class

/- What each handler can do to the vconn: the cases its result falls in. -/
section Handlers
variable {κ : Type} (cls : VconnClass κ) (v : Vconn) (k : κ)

theorem vcsConnectingCases :
    (vcsConnecting cls v k).1 = v ∨ (vcsConnecting cls v k).1 = { v with state := .sendHello } ∨
      Fails v (vcsConnecting cls v k).1 := by
  unfold vcsConnecting
  dsimp only
  split
  · exact .inr (.inl rfl)
  · split
    · next zero failed => exact .inr (.inr ⟨_,zero,failed,rfl⟩)
    · exact .inl rfl

theorem doSendRetval (msg : Msg) : (doSend cls v k msg).1 = (cls.send k msg).1 := rfl

theorem doSendVconn (msg : Msg) :
    (doSend cls v k msg).2.1 = if (cls.send k msg).1 = 0 then { v with wire := v.wire ++ [msg] } else v := rfl

theorem vcsSendHelloCases :
    (vcsSendHello cls v k).1 = v ∨
      (∃ xid, (vcsSendHello cls v k).1 =
        { v with wire := v.wire ++ [makeHello xid],sent := v.sent.countHello,state := .recvHello }) ∨
      Fails v (vcsSendHello cls v k).1 := by
  unfold vcsSendHello
  dsimp only
  simp only [doSendRetval,doSendVconn]
  by_cases taken : (cls.send (cls.random k).2 (makeHello (cls.random k).1)).1 = 0
  · exact .inr (.inl ⟨(cls.random k).1,by simp [taken]⟩)
  · by_cases again : (cls.send (cls.random k).2 (makeHello (cls.random k).1)).1 = eagain
    · exact .inl (by simp [again])
    · exact .inr (.inr ⟨_,taken,again,by simp [taken,again]⟩)

theorem vcsRecvHelloCases :
    (vcsRecvHello cls v k).1 = v ∨
      (∃ peer : UInt8, (vcsRecvHello cls v k).1 =
        { v with version := min (ofpVersion.toNat : Int) peer.toNat,
                 state := if min (ofpVersion.toNat : Int) peer.toNat < v.minVersion then .sendError else .connected,
                 rcvd := v.rcvd.countHello }) ∨
      Fails v (vcsRecvHello cls v k).1 := by
  unfold vcsRecvHello
  dsimp only
  split
  · split
    · exact .inr (.inl ⟨_,rfl⟩)
    · exact .inr (.inr ⟨eproto,by decide,by decide,rfl⟩)
  · next e _ =>
    split
    · next failed => exact .inr (.inr ⟨e.1,e.2,failed,rfl⟩)
    · exact .inl rfl

theorem vcsSendErrorCases :
    (vcsSendError cls v k).1 = { v with sent := v.sent.countHelloFailed } ∨
      (∃ xid, (vcsSendError cls v k).1 =
        { v with wire := v.wire ++ [makeHelloFailed xid v.minVersion v.version],state := .disconnected,
                 error := eproto }) ∨
      Fails { v with sent := v.sent.countHelloFailed } (vcsSendError cls v k).1 := by
  unfold vcsSendError
  dsimp only
  simp only [doSendRetval,doSendVconn]
  by_cases taken : (cls.send (cls.random k).2 (makeHelloFailed (cls.random k).1 v.minVersion v.version)).1 = 0
  · exact .inr (.inl ⟨(cls.random k).1,by simp [doSend,taken]⟩)
  · by_cases again : (cls.send (cls.random k).2 (makeHelloFailed (cls.random k).1 v.minVersion v.version)).1 = eagain
    · exact .inl (by simp [doSend,again])
    · exact .inr (.inr ⟨_,taken,again,by simp [doSend,taken,again]⟩)

end Handlers

/- What one handler of vconn_connect's loop does to the vconn, over all its cases: each runs in its own state,
and moves the vconn on or leaves it. -/
inductive HandlerStep : Vconn → Vconn → Prop where
  | stay {v : Vconn} (pending : v.state.rank < 3) : HandlerStep v v
  | connect {v : Vconn} (here : v.state = .connecting) : HandlerStep v { v with state := .sendHello }
  | sendHello {v : Vconn} (here : v.state = .sendHello) (xid : UInt32) :
      HandlerStep v { v with wire := v.wire ++ [makeHello xid],sent := v.sent.countHello,state := .recvHello }
  | recvHello {v : Vconn} (here : v.state = .recvHello) (peer : UInt8) :
      HandlerStep v
        { v with version := min (ofpVersion.toNat : Int) peer.toNat,
                 state := if min (ofpVersion.toNat : Int) peer.toNat < v.minVersion then .sendError else .connected,
                 rcvd := v.rcvd.countHello }
  | errorRefused {v : Vconn} (here : v.state = .sendError) : HandlerStep v { v with sent := v.sent.countHelloFailed }
  | errorSent {v : Vconn} (here : v.state = .sendError) (xid : UInt32) :
      HandlerStep v
        { v with wire := v.wire ++ [makeHelloFailed xid v.minVersion v.version],state := .disconnected,error := eproto }
  | fail {v v' : Vconn} (pending : v.state.rank < 3) (fails : Fails v v') : HandlerStep v v'
  | errorFail {v v' : Vconn} (here : v.state = .sendError) (fails : Fails { v with sent := v.sent.countHelloFailed } v') :
      HandlerStep v v'

theorem loopTestGoOn {κ : Type} {last : State} {s s' : Vconn × κ} (next : loopTest last s = .inr s') :
    s' = s ∧ s.1.state ≠ last := by
  unfold loopTest at next
  split at next
  · cases next
  · next moved => exact ⟨(Sum.inr.inj next).symm,moved⟩

theorem loopTestReturn {κ : Type} {last : State} {s : Vconn × κ} {r : Int × Vconn × κ} (ret : loopTest last s = .inl r) :
    r = (eagain,s) ∧ s.1.state = last := by
  unfold loopTest at ret
  split at ret
  · next stayed => exact ⟨(Sum.inl.inj ret).symm,stayed⟩
  · cases ret

theorem State.rankLe (st : State) : st.rank ≤ 4 := by
  cases st <;> decide

namespace HandlerStep
variable {v v' : Vconn}

theorem pending (step : HandlerStep v v') : v.state ≠ .connected ∧ v.state ≠ .disconnected := by
  cases step with
  | stay early | fail early => cases h : v.state <;> simp_all [State.rank]
  | connect here | sendHello here | recvHello here | errorRefused here | errorSent here | errorFail here =>
    rw [here]
    decide

theorem rank (step : HandlerStep v v') : v'.state = v.state ∨ v.state.rank < v'.state.rank := by
  cases step with
  | stay => exact .inl rfl
  | errorRefused => exact .inl rfl
  | connect here | sendHello here | errorSent here => right; simp [here,State.rank]
  | recvHello here peer =>
    right
    simp only [here]
    split <;> simp [State.rank]
  | fail early fails =>
    obtain ⟨e,-,-,rfl⟩ := fails
    exact .inr (lt_of_lt_of_le early (show 3 ≤ State.disconnected.rank by decide))
  | errorFail here fails =>
    obtain ⟨e,-,-,rfl⟩ := fails
    right
    simp [here,State.rank]

end HandlerStep

/- What holds of a vconn whose min_version is at least 0, as vconn_connect asserts, at every point of its
life. -/
structure Sound (v : Vconn) : Prop where
  minVersion : 0 ≤ v.minVersion
  failed : v.state = .disconnected → v.error ≠ 0 ∧ v.error ≠ eagain
  unset : v.state.rank < 3 → v.version = -1
  negotiated : v.state = .connected → v.minVersion ≤ v.version ∧ v.version ≤ ofpVersion.toNat
  refused : v.state = .sendError → v.version < v.minVersion

/- What vconn_connect's return says of the vconn: 0 exactly when it is connected, EAGAIN exactly while the
connection is under way, and otherwise the error it was disconnected with. -/
def Reports (r : Int) (v : Vconn) : Prop :=
  (r = 0 ↔ v.state = .connected) ∧ (r = eagain ↔ v.state ≠ .connected ∧ v.state ≠ .disconnected) ∧
    (v.state = .disconnected → r = v.error)

section Sound
variable {v v' : Vconn}

theorem Sound.congr (sound : Sound v) (state : v'.state = v.state) (error : v'.error = v.error)
    (minVersion : v'.minVersion = v.minVersion) (version : v'.version = v.version) : Sound v' := by
  refine ⟨?_,?_,?_,?_,?_⟩
  · rw [minVersion]; exact sound.minVersion
  · rw [state,error]; exact sound.failed
  · rw [state,version]; exact sound.unset
  · rw [state,version,minVersion]; exact sound.negotiated
  · rw [state,version,minVersion]; exact sound.refused

theorem Fails.sound (sound : Sound v) (fails : Fails v v') : Sound v' := by
  obtain ⟨e,nonzero,again,rfl⟩ := fails
  exact ⟨sound.minVersion,fun _ => ⟨nonzero,again⟩,fun early => absurd early (show ¬ State.disconnected.rank < 3 by decide),
    fun final => (by cases final),fun final => (by cases final)⟩

theorem soundEarly (minVersion : 0 ≤ v.minVersion) (unset : v.version = -1) (early : v.state.rank < 3) : Sound v := by
  refine ⟨minVersion,fun final => ?_,fun _ => unset,fun final => ?_,fun final => ?_⟩ <;>
    rw [final] at early <;> exact absurd early (by decide)

theorem HandlerStep.sound (step : HandlerStep v v') (sound : Sound v) : Sound v' := by
  cases step with
  | stay => exact sound
  | connect here =>
    exact soundEarly sound.minVersion (sound.unset (by rw [here]; decide)) (show State.sendHello.rank < 3 by decide)
  | sendHello here =>
    exact soundEarly sound.minVersion (sound.unset (by rw [here]; decide)) (show State.recvHello.rank < 3 by decide)
  | recvHello here peer =>
    refine ⟨sound.minVersion,fun final => ?_,fun early => ?_,fun final => ?_,fun final => ?_⟩
    · dsimp only at final
      split at final <;> cases final
    · dsimp only at early
      split at early <;> exact absurd early (by decide)
    · dsimp only at final ⊢
      split at final
      · cases final
      · next high => exact ⟨not_lt.1 high,min_le_left _ _⟩
    · dsimp only at final ⊢
      split at final
      · next low => exact low
      · cases final
  | errorRefused => exact sound.congr rfl rfl rfl rfl
  | errorSent =>
    exact ⟨sound.minVersion,fun _ => ⟨eprotoNe,eprotoNeEagain⟩,
      fun early => absurd early (show ¬ State.disconnected.rank < 3 by decide),fun final => (by cases final),
      fun final => (by cases final)⟩
  | fail _ fails => exact fails.sound sound
  | errorFail _ fails =>
    have counted : Sound { v with sent := v.sent.countHelloFailed } := sound.congr rfl rfl rfl rfl
    exact fails.sound counted

theorem Sound.steps (sound : Sound v) (steps : Relation.ReflTransGen HandlerStep v v') : Sound v' := by
  induction steps with
  | refl => exact sound
  | tail _ step ih => exact step.sound ih

end Sound

section Recv
variable {κ : Type} (cls : VconnClass κ)

theorem recvPassGoOn {version : Int} {k k' : κ} (next : recvPass cls version k = .inr k') :
    cls.backlog k' < cls.backlog k := by
  unfold recvPass at next
  split at next
  · next m k'' got =>
    split at next
    · cases next
    · split at next
      · cases next
        exact cls.recvDrains k m _ got
      · cases next
  · cases next

theorem doRecvPasses (version : Int) (k : κ) :
    passes (recvPass cls version) (cls.backlog k + 1) k = some (doRecv cls version k) := by
  obtain ⟨r,done⟩ := @passesReturns _ _ (recvPass cls version) cls.backlog
    (fun _ _ next => recvPassGoOn cls next) (cls.backlog k + 1) k (by omega)
  rw [doRecv,done]
  rfl

theorem doRecvAccepts {version : Int} {k : κ} {m : Msg} (got : (doRecv cls version k).1 = .ok m) :
    accepts version m = true := by
  have ret : ∀ (k : κ) (r : Except Errno Msg × κ), True → recvPass cls version k = .inl r →
      ∀ m, r.1 = .ok m → accepts version m = true := by
    intro k r _ pass m' delivered
    unfold recvPass at pass
    split at pass
    · split at pass
      · next accepted =>
        cases pass
        cases delivered
        exact accepted
      · -- a skipped message goes on, a refused one returns EPROTO
        split at pass
        · cases pass
        · cases pass
          cases delivered
    · cases pass
      cases delivered
  exact passesInvariant (fun _ _ _ _ => trivial) ret trivial (doRecvPasses cls version k) m got

end Recv

/- What the class has taken, by state: nothing before the hello is sent; the hello alone while the vconn waits
for the peer's; once connected, the hello and then what vconn_send handed over (`users`); and when
disconnected, at most the hello and the OFPT_ERROR of a failed negotiation. -/
def WireShape (v : Vconn) (users : List Msg) : Prop :=
  match v.state with
  | .connecting | .sendHello => v.wire = [] ∧ users = []
  | .recvHello | .sendError => (∃ xid, v.wire = [makeHello xid]) ∧ users = []
  | .connected => ∃ xid, v.wire = makeHello xid :: users
  | .disconnected =>
    users = [] ∧ (v.wire = [] ∨ (∃ xid, v.wire = [makeHello xid]) ∨
      ∃ xid xid', v.wire = [makeHello xid,makeHelloFailed xid' v.minVersion v.version])

section Wire
variable {v v' : Vconn} {users : List Msg}

theorem WireShape.fail (shape : WireShape v users) (early : v.state.rank < 3 ∨ v.state = .sendError)
    (fails : Fails v v') : WireShape v' users := by
  obtain ⟨e,-,-,rfl⟩ := fails
  simp only [WireShape]
  cases here : v.state <;> simp only [WireShape,here] at shape early
  · exact ⟨shape.2,.inl shape.1⟩
  · exact ⟨shape.2,.inl shape.1⟩
  · exact ⟨shape.2,.inr (.inl shape.1)⟩
  · simp [State.rank] at early
  · exact ⟨shape.2,.inr (.inl shape.1)⟩
  · simp [State.rank] at early

theorem HandlerStep.wire (step : HandlerStep v v') (shape : WireShape v users) : WireShape v' users := by
  cases step with
  | stay => exact shape
  | connect here =>
    simp only [WireShape,here] at shape
    exact shape
  | sendHello here xid =>
    simp only [WireShape,here] at shape
    simp [WireShape,shape]
  | recvHello here peer =>
    simp only [WireShape,here] at shape
    obtain ⟨⟨xid,sent⟩,none⟩ := shape
    by_cases low : min (ofpVersion.toNat : Int) peer.toNat < v.minVersion
    · simp only [WireShape,low,if_true]
      exact ⟨⟨xid,sent⟩,none⟩
    · simp only [WireShape,low,if_false]
      exact ⟨xid,by rw [sent,none]⟩
  | errorRefused here =>
    simp only [WireShape,here] at shape
    simpa only [WireShape,here] using shape
  | errorSent here xid' =>
    simp only [WireShape,here] at shape
    obtain ⟨⟨xid,sent⟩,none⟩ := shape
    simp only [WireShape]
    exact ⟨none,.inr (.inr ⟨xid,xid',by rw [sent]; rfl⟩)⟩
  | fail early fails => exact shape.fail (.inl early) fails
  | errorFail here fails =>
    have counted : WireShape { v with sent := v.sent.countHelloFailed } users := by
      simp only [WireShape,here] at shape
      simpa only [WireShape,here] using shape
    exact counted.fail (.inr here) fails

theorem WireShape.steps (shape : WireShape v users) (steps : Relation.ReflTransGen HandlerStep v v') :
    WireShape v' users := by
  induction steps with
  | refl => exact shape
  | tail _ step ih => exact step.wire ih

end Wire

theorem HandlerStep.minVersion {v v' : Vconn} (step : HandlerStep v v') : v'.minVersion = v.minVersion := by
  cases step with
  | recvHello => rfl
  | fail _ fails | errorFail _ fails =>
    obtain ⟨e,-,-,rfl⟩ := fails
    rfl
  | _ => rfl

theorem minVersionSteps {v v' : Vconn} (steps : Relation.ReflTransGen HandlerStep v v') : v'.minVersion = v.minVersion := by
  induction steps with
  | refl => rfl
  | tail _ step ih => rw [step.minVersion,ih]

section Pass
variable {κ : Type} (cls : VconnClass κ)

theorem connectPassCases (s : Vconn × κ) :
    (s.1.state = .connected ∧ connectPass cls s = .inl (0,s)) ∨
      (s.1.state = .disconnected ∧ connectPass cls s = .inl (s.1.error,s)) ∨
      ∃ s' : Vconn × κ, HandlerStep s.1 s'.1 ∧ connectPass cls s = loopTest s.1.state s' := by
  obtain ⟨v,k⟩ := s
  unfold connectPass
  split
  · next here =>
    refine .inr (.inr ⟨_,?_,by rw [here]⟩)
    rcases vcsConnectingCases cls v k with same | moved | fails
    · rw [same]; exact .stay (by rw [here]; decide)
    · rw [moved]; exact .connect here
    · exact .fail (by rw [here]; decide) fails
  · next here =>
    refine .inr (.inr ⟨_,?_,by rw [here]⟩)
    rcases vcsSendHelloCases cls v k with same | ⟨xid,moved⟩ | fails
    · rw [same]; exact .stay (by rw [here]; decide)
    · rw [moved]; exact .sendHello here xid
    · exact .fail (by rw [here]; decide) fails
  · next here =>
    refine .inr (.inr ⟨_,?_,by rw [here]⟩)
    rcases vcsRecvHelloCases cls v k with same | ⟨peer,moved⟩ | fails
    · rw [same]; exact .stay (by rw [here]; decide)
    · rw [moved]; exact .recvHello here peer
    · exact .fail (by rw [here]; decide) fails
  · next here => exact .inl ⟨here,rfl⟩
  · next here =>
    refine .inr (.inr ⟨_,?_,by rw [here]⟩)
    rcases vcsSendErrorCases cls v k with counted | ⟨xid,moved⟩ | fails
    · rw [counted]; exact .errorRefused here
    · rw [moved]; exact .errorSent here xid
    · exact .errorFail here fails
  · next here => exact .inr (.inl ⟨here,rfl⟩)

theorem connectPassGoOn {s s' : Vconn × κ} (next : connectPass cls s = .inr s') :
    HandlerStep s.1 s'.1 ∧ s'.1.state ≠ s.1.state := by
  rcases connectPassCases cls s with ⟨-,ret⟩ | ⟨-,ret⟩ | ⟨t,step,pass⟩
  · rw [ret] at next; cases next
  · rw [ret] at next; cases next
  · rw [pass] at next
    obtain ⟨rfl,moved⟩ := loopTestGoOn next
    exact ⟨step,moved⟩

theorem connectPassReturn {s : Vconn × κ} {r : Int × Vconn × κ} (ret : connectPass cls s = .inl r) :
    (s.1.state = .connected ∧ r = (0,s)) ∨ (s.1.state = .disconnected ∧ r = (s.1.error,s)) ∨
      ∃ s' : Vconn × κ, HandlerStep s.1 s'.1 ∧ s'.1.state = s.1.state ∧ r = (eagain,s') := by
  rcases connectPassCases cls s with ⟨here,pass⟩ | ⟨here,pass⟩ | ⟨t,step,pass⟩
  · rw [pass] at ret
    exact .inl ⟨here,(Sum.inl.inj ret).symm⟩
  · rw [pass] at ret
    exact .inr (.inl ⟨here,(Sum.inl.inj ret).symm⟩)
  · rw [pass] at ret
    obtain ⟨rfl,stayed⟩ := loopTestReturn ret
    exact .inr (.inr ⟨t,step,stayed,rfl⟩)

theorem connectReturns (s : Vconn × κ) : ∃ r, passes (connectPass cls) 5 s = some r := by
  have falls : ∀ s s', connectPass cls s = .inr s' → 4 - s'.1.state.rank < 4 - s.1.state.rank := by
    intro s s' next
    obtain ⟨step,moved⟩ := connectPassGoOn cls next
    have later := step.rank.resolve_left moved
    have bounded := State.rankLe s'.1.state
    omega
  exact @passesReturns _ _ (connectPass cls) (fun s => 4 - s.1.state.rank) falls 5 s (by omega)

theorem vconnConnectPasses (v : Vconn) (k : κ) : passes (connectPass cls) 5 (v,k) = some (vconnConnect cls v k) := by
  obtain ⟨r,done⟩ := connectReturns cls (v,k)
  rw [vconnConnect,done]
  rfl

theorem vconnConnectSteps (v : Vconn) (k : κ) :
    Relation.ReflTransGen HandlerStep v (vconnConnect cls v k).2.1 ∧
      ((vconnConnect cls v k).2.1.state = .connected ∧ (vconnConnect cls v k).1 = 0 ∨
        (vconnConnect cls v k).2.1.state = .disconnected ∧ (vconnConnect cls v k).1 = (vconnConnect cls v k).2.1.error ∨
        (vconnConnect cls v k).2.1.state ≠ .connected ∧ (vconnConnect cls v k).2.1.state ≠ .disconnected ∧
          (vconnConnect cls v k).1 = eagain) := by
  have keep : ∀ s s' : Vconn × κ, Relation.ReflTransGen HandlerStep v s.1 → connectPass cls s = .inr s' →
      Relation.ReflTransGen HandlerStep v s'.1 :=
    fun s s' steps next => steps.tail (connectPassGoOn cls next).1
  have ret : ∀ (s : Vconn × κ) (r : Int × Vconn × κ), Relation.ReflTransGen HandlerStep v s.1 →
      connectPass cls s = .inl r → Relation.ReflTransGen HandlerStep v r.2.1 ∧
        (r.2.1.state = .connected ∧ r.1 = 0 ∨ r.2.1.state = .disconnected ∧ r.1 = r.2.1.error ∨
          r.2.1.state ≠ .connected ∧ r.2.1.state ≠ .disconnected ∧ r.1 = eagain) := by
    intro s r steps pass
    rcases connectPassReturn cls pass with ⟨here,rfl⟩ | ⟨here,rfl⟩ | ⟨s',step,stayed,rfl⟩
    · exact ⟨steps,.inl ⟨here,rfl⟩⟩
    · exact ⟨steps,.inr (.inl ⟨here,rfl⟩)⟩
    · have pending := step.pending
      exact ⟨steps.tail step,.inr (.inr ⟨by rw [stayed]; exact pending.1,by rw [stayed]; exact pending.2,rfl⟩)⟩
  exact passesInvariant keep ret Relation.ReflTransGen.refl (vconnConnectPasses cls v k)

theorem vconnConnectReports {v : Vconn} (sound : Sound v) (k : κ) :
    Sound (vconnConnect cls v k).2.1 ∧ Reports (vconnConnect cls v k).1 (vconnConnect cls v k).2.1 := by
  obtain ⟨steps,ends⟩ := vconnConnectSteps cls v k
  have after := sound.steps steps
  refine ⟨after,?_⟩
  rcases ends with ⟨here,ret⟩ | ⟨here,ret⟩ | ⟨connected,disconnected,ret⟩
  · simp [Reports,here,ret]
  · have failed := after.failed here
    simp [Reports,here,ret,failed]
  · simp [Reports,ret,connected,disconnected]

end Pass

end Vconn
end OpenFlow
