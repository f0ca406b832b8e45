import Mathlib
import OpenFlow.VconnRun

/-! Two vconns of this code at the two ends of one stream connection, each driven by its own user calling
vconn_connect, vconn_recv and vconn_send, the calls of the two sides interleaved in any order. -/
namespace OpenFlow
open WhileLoop StepSystem
namespace Vconn
namespace Pair

inductive Side where
  | left
  | right
  deriving DecidableEq, Repr

def Side.peer : Side → Side
  | .left => .right
  | .right => .left

@[simp] theorem Side.peerPeer (s : Side) : s.peer.peer = s := by
  cases s <;> rfl

@[simp] theorem Side.peerNe (s : Side) : s.peer ≠ s := by
  cases s <;> decide

@[simp] theorem Side.nePeer (s : Side) : s ≠ s.peer := by
  cases s <;> decide

theorem Side.eqOrPeer (s t : Side) : t = s ∨ t = s.peer := by
  cases s <;> cases t <;> simp [Side.peer]

/- The stream between the two sides: what each side sent that its peer has not read, what each side's recv has
returned, and random_uint32's state. -/
structure Link where
  queue : Side → List Msg
  heard : Side → List Msg
  xid : UInt32

/- Side `s` sends `m`. -/
def Link.put (l : Link) (s : Side) (m : Msg) : Link := { l with queue := Function.update l.queue s (l.queue s ++ [m]) }

/- Side `s` reads `m`, the head of what its peer sent, before `rest`. -/
def Link.take (l : Link) (s : Side) (m : Msg) (rest : List Msg) : Link :=
  { l with queue := Function.update l.queue s.peer rest,heard := Function.update l.heard s (l.heard s ++ [m]) }

def Link.draw (l : Link) : Link := { l with xid := l.xid + 1 }

section Link
variable (l : Link) (s : Side)

@[simp] theorem Link.putQueue (m : Msg) : (l.put s m).queue = Function.update l.queue s (l.queue s ++ [m]) := rfl
@[simp] theorem Link.putHeard (m : Msg) : (l.put s m).heard = l.heard := rfl
@[simp] theorem Link.takeQueue (m : Msg) (rest : List Msg) :
    (l.take s m rest).queue = Function.update l.queue s.peer rest := rfl
@[simp] theorem Link.takeHeard (m : Msg) (rest : List Msg) :
    (l.take s m rest).heard = Function.update l.heard s (l.heard s ++ [m]) := rfl
@[simp] theorem Link.drawQueue : l.draw.queue = l.queue := rfl
@[simp] theorem Link.drawHeard : l.draw.heard = l.heard := rfl

end Link

/- The class of side `s`: its connect has completed, send queues the message unless `cap` of its messages are
unread, and recv reads the head of what the peer sent, or answers EAGAIN. -/
def linkClass (cap : Nat) (s : Side) : VconnClass Link where
  connect l := (0,l)
  recv l :=
    match l.queue s.peer with
    | [] => (.error eagainErr,l)
    | m :: rest => (.ok m,l.take s m rest)
  send l m := if (l.queue s).length < cap then (0,l.put s m) else (eagain,l)
  random l := (l.xid,l.draw)
  backlog l := (l.queue s.peer).length
  connectSettles _ := show (0 : Int) ≠ 115 by decide
  recvDrains l m l' got := by
    cases queue : l.queue s.peer with
    | nil => simp [queue] at got
    | cons m' rest =>
      simp only [queue,Prod.mk.injEq,Except.ok.injEq] at got
      obtain ⟨-,rfl⟩ := got
      simp

/- What each handler and do_recv do over the link: the class never fails, so a handler moves the vconn on or
leaves it waiting. -/
section Handlers
variable (cap : Nat) (s : Side) (v : Vconn) (l : Link)

theorem connectingLink : vcsConnecting (linkClass cap s) v l = ({ v with state := .sendHello },l) := by
  simp [vcsConnecting,linkClass]

theorem sendHelloLink :
    vcsSendHello (linkClass cap s) v l =
      if (l.queue s).length < cap then
        ({ v with wire := v.wire ++ [makeHello l.xid],sent := v.sent.countHello,state := .recvHello },
          l.draw.put s (makeHello l.xid))
      else (v,l.draw) := by
  by_cases room : (l.queue s).length < cap <;> simp [vcsSendHello,doSend,linkClass,room]

theorem sendErrorLink :
    vcsSendError (linkClass cap s) v l =
      if (l.queue s).length < cap then
        ({ v with wire := v.wire ++ [makeHelloFailed l.xid v.minVersion v.version],state := .disconnected,
                  error := eproto },l.draw.put s (makeHelloFailed l.xid v.minVersion v.version))
      else ({ v with sent := v.sent.countHelloFailed },l.draw) := by
  by_cases room : (l.queue s).length < cap <;> simp [vcsSendError,doSend,linkClass,room]

theorem doRecvLinkEmpty (empty : l.queue s.peer = []) (version : Int) :
    doRecv (linkClass cap s) version l = (.error eagainErr,l) := by
  have first : recvPass (linkClass cap s) version l = .inl (.error eagainErr,l) := by
    simp [recvPass,linkClass,empty]
  have done := doRecvPasses (linkClass cap s) version l
  rw [passesReturn first] at done
  exact (Option.some.inj done).symm

theorem doRecvLinkHead {m : Msg} {rest : List Msg} (head : l.queue s.peer = m :: rest) {version : Int}
    (kept : 0 ≤ version ∨ accepts version m = true) :
    doRecv (linkClass cap s) version l =
      (if accepts version m then .ok m else .error eprotoErr,l.take s m rest) := by
  have first : recvPass (linkClass cap s) version l =
      .inl (if accepts version m then .ok m else .error eprotoErr,l.take s m rest) := by
    by_cases ok : accepts version m = true
    · simp [recvPass,linkClass,head,ok]
    · have late : ¬ version < 0 := by
        rcases kept with late | ok'
        · omega
        · exact absurd ok' ok
      simp [recvPass,linkClass,head,ok,late]
  have done := doRecvPasses (linkClass cap s) version l
  rw [passesReturn first] at done
  exact (Option.some.inj done).symm

theorem acceptsHello (version : Int) (xid : UInt32) : accepts version (makeHello xid) = true := by
  simp [accepts,versionFree,makeHello]

theorem recvHelloLinkEmpty (empty : l.queue s.peer = []) : vcsRecvHello (linkClass cap s) v l = (v,l) := by
  simp [vcsRecvHello,doRecvLinkEmpty cap s l empty,eagainErr]

theorem recvHelloLinkHello {xid : UInt32} {rest : List Msg} (head : l.queue s.peer = makeHello xid :: rest) :
    vcsRecvHello (linkClass cap s) v l =
      ({ v with version := ofpVersion.toNat,
                state := if (ofpVersion.toNat : Int) < v.minVersion then .sendError else .connected,
                rcvd := v.rcvd.countHello },l.take s (makeHello xid) rest) := by
  have got := doRecvLinkHead cap s l head (.inr (acceptsHello v.version xid))
  rw [acceptsHello,if_pos rfl] at got
  simp [vcsRecvHello,got,makeHello,ofptHello,ofpVersion]

theorem doSendLink (cap : Nat) (s : Side) (v : Vconn) (l : Link) (msg : Msg) :
    doSend (linkClass cap s) v l msg =
      if (l.queue s).length < cap then (0,{ v with wire := v.wire ++ [msg] },l.put s msg) else (eagain,v,l) := by
  by_cases room : (l.queue s).length < cap <;> simp [doSend,linkClass,room]

end Handlers

section Flow
variable (l : Link) (s : Side) (m : Msg) (rest : List Msg)

theorem putFlow : (l.put s m).heard s.peer ++ (l.put s m).queue s = l.heard s.peer ++ l.queue s ++ [m] := by
  simp

theorem putFlowPeer : (l.put s m).heard s ++ (l.put s m).queue s.peer = l.heard s ++ l.queue s.peer := by
  simp

theorem takeFlow : (l.take s m rest).heard s.peer ++ (l.take s m rest).queue s = l.heard s.peer ++ l.queue s := by
  simp

theorem takeFlowPeer (head : l.queue s.peer = m :: rest) :
    (l.take s m rest).heard s ++ (l.take s m rest).queue s.peer = l.heard s ++ l.queue s.peer := by
  simp [head]

theorem takeHeardPeer : (l.take s m rest).heard s.peer = l.heard s.peer := by
  simp

end Flow

/- What a side has sent, by its state: nothing before its hello; its hello, then once connected what followed;
and when disconnected, the hello and the OFPT_ERROR of a failed negotiation, the link's class never failing.
-/
def SentShape (v : Vconn) : Prop :=
  match v.state with
  | .connecting | .sendHello => v.wire = []
  | .recvHello | .sendError => ∃ xid, v.wire = [makeHello xid]
  | .connected => ∃ xid rest, v.wire = makeHello xid :: rest
  | .disconnected => ∃ xid xid', v.wire = [makeHello xid,makeHelloFailed xid' v.minVersion v.version]

/- What a side has read, by its state: nothing before the peer's hello; the hello, and once connected what
followed, of which vconn_recv has returned those of the negotiated version (`got`); a side that failed the
negotiation asked for more than OFP_VERSION. -/
def ReadShape (v : Vconn) (heard got : List Msg) : Prop :=
  match v.state with
  | .connecting | .sendHello | .recvHello => heard = [] ∧ got = []
  | .connected =>
    ∃ xid rest, heard = makeHello xid :: rest ∧ v.version = ofpVersion.toNat ∧ got = rest.filter (accepts v.version)
  | .sendError | .disconnected =>
    (∃ xid, heard = [makeHello xid]) ∧ v.version = ofpVersion.toNat ∧ v.version < v.minVersion ∧ got = []

/- Side `s` of the pair, with its vconn `v` and what its vconn_recv has returned. -/
structure SideInv (s : Side) (v : Vconn) (l : Link) (got : List Msg) : Prop where
  sound : Sound v
  sent : SentShape v
  fifo : v.wire = l.heard s.peer ++ l.queue s
  read : ReadShape v (l.heard s) got

section SideInv
variable {s : Side} {v w : Vconn} {l l' : Link} {got : List Msg}

theorem SideInv.frame (inv : SideInv s v l got) (flow : l'.heard s.peer ++ l'.queue s = l.heard s.peer ++ l.queue s)
    (heard : l'.heard s = l.heard s) : SideInv s v l' got :=
  ⟨inv.sound,inv.sent,by rw [flow]; exact inv.fifo,by rw [heard]; exact inv.read⟩

theorem SideInv.peerHead {gw : List Msg} (peer : SideInv s.peer w l gw) (nothing : l.heard s = []) :
    l.queue s.peer = [] ∨ ∃ xid rest, l.queue s.peer = makeHello xid :: rest := by
  have fifo := peer.fifo
  rw [Side.peerPeer,nothing,List.nil_append] at fifo
  have sent := peer.sent
  rw [← fifo]
  cases here : w.state <;> simp only [SentShape,here] at sent
  · exact .inl sent
  · exact .inl sent
  · obtain ⟨xid,wire⟩ := sent
    exact .inr ⟨xid,[],wire⟩
  · obtain ⟨xid,rest,wire⟩ := sent
    exact .inr ⟨xid,rest,wire⟩
  · obtain ⟨xid,wire⟩ := sent
    exact .inr ⟨xid,[],wire⟩
  · obtain ⟨xid,xid',wire⟩ := sent
    exact .inr ⟨xid,_,wire⟩

end SideInv

/- Both sides' invariants while side `s` runs with vconn `v`, its peer's vconn `w` waiting. -/
def Both (s : Side) (v w : Vconn) (l : Link) (got gw : List Msg) : Prop :=
  SideInv s v l got ∧ SideInv s.peer w l gw

/- What each handler of side `s` keeps of both sides. -/
section Keeps
variable (cap : Nat) {s : Side} {v w : Vconn} {l : Link} {got gw : List Msg}

theorem connectingKeeps (both : Both s v w l got gw) (here : v.state = .connecting) :
    Both s (vcsConnecting (linkClass cap s) v l).1 w (vcsConnecting (linkClass cap s) v l).2 got gw := by
  obtain ⟨inv,peer⟩ := both
  rw [connectingLink]
  have sent := inv.sent
  have read := inv.read
  simp only [SentShape,ReadShape,here] at sent read
  refine ⟨⟨(HandlerStep.connect here).sound inv.sound,sent,inv.fifo,read⟩,peer⟩

theorem sendHelloKeeps (both : Both s v w l got gw) (here : v.state = .sendHello) :
    Both s (vcsSendHello (linkClass cap s) v l).1 w (vcsSendHello (linkClass cap s) v l).2 got gw := by
  obtain ⟨inv,peer⟩ := both
  rw [sendHelloLink]
  split
  · -- the link takes the hello: it follows what the side sent so far, which is nothing
    have sent := inv.sent
    have read := inv.read
    simp only [SentShape,ReadShape,here] at sent read
    refine ⟨⟨(HandlerStep.sendHello here l.xid).sound inv.sound,?_,?_,read⟩,?_⟩
    · simp only [SentShape,sent]
      exact ⟨l.xid,rfl⟩
    · rw [putFlow,Link.drawHeard,Link.drawQueue,← inv.fifo]
    · exact peer.frame (by rw [Side.peerPeer,putFlowPeer]; rfl) (by simp)
  · exact ⟨inv.frame rfl rfl,peer.frame rfl rfl⟩

theorem recvHelloKeeps (both : Both s v w l got gw) (here : v.state = .recvHello) :
    Both s (vcsRecvHello (linkClass cap s) v l).1 w (vcsRecvHello (linkClass cap s) v l).2 got gw := by
  obtain ⟨inv,peer⟩ := both
  have sent := inv.sent
  have read := inv.read
  simp only [SentShape,ReadShape,here] at sent read
  obtain ⟨xid,wire⟩ := sent
  obtain ⟨nothing,none⟩ := read
  rcases peer.peerHead nothing with empty | ⟨xid',rest,head⟩
  · rw [recvHelloLinkEmpty cap s v l empty]
    exact ⟨inv,peer⟩
  rw [recvHelloLinkHello cap s v l head]
  have peer' : SideInv s.peer w (l.take s (makeHello xid') rest) gw :=
    peer.frame (by rw [Side.peerPeer,takeFlowPeer l s _ rest head]) (takeHeardPeer l s _ rest)
  have fifo : v.wire = (l.take s (makeHello xid') rest).heard s.peer ++ (l.take s (makeHello xid') rest).queue s := by
    rw [takeFlow]; exact inv.fifo
  have heard : (l.take s (makeHello xid') rest).heard s = [makeHello xid'] := by
    simp [nothing]
  by_cases low : (ofpVersion.toNat : Int) < v.minVersion
  · refine ⟨⟨?_,?_,fifo,?_⟩,peer'⟩
    · exact ⟨inv.sound.minVersion,by simp [low],by simp [low,State.rank],by simp [low],by simp [low]⟩
    · simp only [SentShape,low,if_true]
      exact ⟨xid,wire⟩
    · simp only [ReadShape,low,if_true,heard]
      refine ⟨⟨xid',rfl⟩,?_⟩
      simp [none]
  · refine ⟨⟨?_,?_,fifo,?_⟩,peer'⟩
    · exact ⟨inv.sound.minVersion,by simp [low],by simp [low,State.rank],fun _ => ⟨not_lt.1 low,le_refl _⟩,
        by simp [low]⟩
    · simp only [SentShape,low,if_false]
      exact ⟨xid,[],wire⟩
    · simp only [ReadShape,low,if_false,heard]
      refine ⟨xid',[],rfl,?_⟩
      simp [none]

theorem sendErrorKeeps (both : Both s v w l got gw) (here : v.state = .sendError) :
    Both s (vcsSendError (linkClass cap s) v l).1 w (vcsSendError (linkClass cap s) v l).2 got gw := by
  obtain ⟨inv,peer⟩ := both
  rw [sendErrorLink]
  have sent := inv.sent
  have read := inv.read
  simp only [SentShape,ReadShape,here] at sent read
  split
  · -- the link takes the error: the side is DISCONNECTED after its hello and the error
    obtain ⟨xid,wire⟩ := sent
    refine ⟨⟨(HandlerStep.errorSent here l.xid).sound inv.sound,?_,?_,?_⟩,?_⟩
    · simp only [SentShape]
      exact ⟨xid,l.xid,by rw [wire]; rfl⟩
    · rw [putFlow,Link.drawHeard,Link.drawQueue,← inv.fifo]
    · simp only [ReadShape,Link.putHeard,Link.drawHeard]
      exact read
    · exact peer.frame (by rw [Side.peerPeer,putFlowPeer]; rfl) (by simp)
  · refine ⟨⟨(HandlerStep.errorRefused here).sound inv.sound,?_,inv.fifo,?_⟩,peer.frame rfl rfl⟩
    · simp only [SentShape,here]
      exact sent
    · simp only [ReadShape,here,Link.drawHeard]
      exact read

theorem loopTestKeeps {P : Vconn × Link → Prop} {last : State} {x : Vconn × Link} (h : P x) :
    (∀ x', loopTest last x = .inr x' → P x') ∧ (∀ r, loopTest last x = .inl r → P r.2) := by
  refine ⟨fun x' next => ?_,fun r ret => ?_⟩
  · rw [(loopTestGoOn next).1]
    exact h
  · rw [(loopTestReturn ret).1]
    exact h

theorem connectPassKeeps {x : Vconn × Link} (both : Both s x.1 w x.2 got gw) :
    (∀ x', connectPass (linkClass cap s) x = .inr x' → Both s x'.1 w x'.2 got gw) ∧
      (∀ r, connectPass (linkClass cap s) x = .inl r → Both s r.2.1 w r.2.2 got gw) := by
  obtain ⟨v,l⟩ := x
  unfold connectPass
  split
  · next here => exact loopTestKeeps (connectingKeeps cap both here)
  · next here => exact loopTestKeeps (sendHelloKeeps cap both here)
  · next here => exact loopTestKeeps (recvHelloKeeps cap both here)
  · exact ⟨fun _ next => (by cases next),fun r ret => (by cases ret; exact both)⟩
  · next here => exact loopTestKeeps (sendErrorKeeps cap both here)
  · exact ⟨fun _ next => (by cases next),fun r ret => (by cases ret; exact both)⟩

theorem vconnConnectKeeps (both : Both s v w l got gw) :
    Both s (vconnConnect (linkClass cap s) v l).2.1 w (vconnConnect (linkClass cap s) v l).2.2 got gw :=
  passesInvariant (fun _ _ inv next => (connectPassKeeps cap inv).1 _ next)
    (fun _ _ inv ret => (connectPassKeeps cap inv).2 _ ret) both (vconnConnectPasses (linkClass cap s) v l)

theorem Both.connected (both : Both s v w l got gw) (ready : (vconnConnect (linkClass cap s) v l).1 = 0) :
    (vconnConnect (linkClass cap s) v l).2.1.state = .connected ∧
      (vconnConnect (linkClass cap s) v l).2.1.version = ofpVersion.toNat := by
  have connected := ((vconnConnectReports (linkClass cap s) both.1.sound l).2.1.1 ready)
  have read := (vconnConnectKeeps cap both).1.read
  simp only [ReadShape,connected] at read
  obtain ⟨_,_,_,version,_⟩ := read
  exact ⟨connected,version⟩

theorem sendKeeps (both : Both s v w l got gw) (msg : Msg) :
    Both s (vconnSend (linkClass cap s) v l msg).2.1 w (vconnSend (linkClass cap s) v l msg).2.2 got gw := by
  have after := vconnConnectKeeps cap both
  unfold vconnSend
  dsimp only
  split
  · -- connected: the link takes the message after the side's hello and what followed it
    next ready =>
    obtain ⟨connected,-⟩ := both.connected cap ready
    obtain ⟨inv,peer⟩ := after
    rw [doSendLink]
    split
    · have sent := inv.sent
      simp only [SentShape,connected] at sent
      obtain ⟨xid,rest,wire⟩ := sent
      refine ⟨⟨inv.sound.congr rfl rfl rfl rfl,?_,?_,?_⟩,?_⟩
      · simp only [SentShape,connected]
        exact ⟨xid,rest ++ [msg],by rw [wire]; rfl⟩
      · rw [putFlow,← inv.fifo]
      · simpa only [ReadShape,Link.putHeard] using inv.read
      · exact peer.frame (by rw [Side.peerPeer,putFlowPeer]) (by simp)
    · exact ⟨inv,peer⟩
  · exact after

theorem recvKeeps (both : Both s v w l got gw) :
    Both s (vconnRecv (linkClass cap s) v l).2.1 w (vconnRecv (linkClass cap s) v l).2.2
      (got ++ (deliveredOf (.recv,Reply.ofRecv (vconnRecv (linkClass cap s) v l).1)).toList) gw := by
  have after := vconnConnectKeeps cap both
  unfold vconnRecv
  dsimp only
  split
  · next ready =>
    obtain ⟨connected,version⟩ := both.connected cap ready
    obtain ⟨inv,peer⟩ := after
    rw [version]
    have read := inv.read
    simp only [ReadShape,connected] at read
    obtain ⟨xid,rest,heard,-,delivered⟩ := read
    rw [version] at delivered
    cases queue : (vconnConnect (linkClass cap s) v l).2.2.queue s.peer with
    | nil =>
      rw [doRecvLinkEmpty cap s _ queue]
      simp only [Reply.ofRecv,deliveredOf,Option.toList,List.append_nil]
      exact ⟨inv,peer⟩
    | cons m rest' =>
      rw [doRecvLinkHead cap s _ queue (.inl (by decide))]
      have peer' := peer.frame (by rw [Side.peerPeer,takeFlowPeer _ s m rest' queue]) (takeHeardPeer _ s m rest')
      have fifo := inv.fifo
      rw [← takeFlow _ s m rest'] at fifo
      refine ⟨⟨inv.sound,inv.sent,fifo,?_⟩,peer'⟩
      simp only [ReadShape,connected,Link.takeHeard,Function.update_self,heard]
      refine ⟨xid,rest ++ [m],rfl,version,?_⟩
      rw [version,delivered]
      by_cases ok : accepts (ofpVersion.toNat : Int) m = true <;> simp [ok,Reply.ofRecv,deliveredOf,List.filter_append]
  · simp only [Reply.ofRecv,deliveredOf,Option.toList,List.append_nil]
    exact after

theorem callKeeps (both : Both s v w l got gw) (c : Call) :
    Both s (call (linkClass cap s) (v,l) c).2.1 w (call (linkClass cap s) (v,l) c).2.2
      (got ++ (deliveredOf (c,(call (linkClass cap s) (v,l) c).1)).toList) gw := by
  cases c with
  | connect => simpa [call,deliveredOf] using vconnConnectKeeps cap both
  | recv => exact recvKeeps cap both
  | send msg => simpa [call,deliveredOf] using sendKeeps cap both msg

end Keeps

/- The connection of the pair: each side's vconn, the link, and each side's calls with their replies. -/
structure Conn where
  vconns : Side → Vconn
  link : Link
  log : Side → List (Call × Reply)

/- Side `e.1` makes the call `e.2`. -/
def step (cap : Nat) (p : Conn) (e : Side × Call) : Conn :=
  let r := call (linkClass cap e.1) (p.vconns e.1,p.link) e.2
  { vconns := Function.update p.vconns e.1 r.2.1
    link := r.2.2
    log := Function.update p.log e.1 (p.log e.1 ++ [(e.2,r.1)]) }

/- Two vconns as vconn_open or pvconn_accept return them, with the status of the link's connect, done (0) or
under way (EAGAIN). -/
def init (status minVersion : Side → Int) : Conn :=
  { vconns := fun s => { vconnInit (status s) with minVersion := minVersion s }
    link := ⟨fun _ => [],fun _ => [],0⟩
    log := fun _ => [] }

/- The schedule of a handshake: side `s` calls vconn_connect, then its peer, then `s` again. -/
def handshake (s : Side) : List (Side × Call) := [(s,.connect),(s.peer,.connect),(s,.connect)]

/- What holds of the pair after every interleaving of the two sides' calls. -/
structure PairInv (minVersion : Side → Int) (p : Conn) : Prop where
  side : ∀ s, SideInv s (p.vconns s) p.link ((p.log s).filterMap deliveredOf)
  life : ∀ s, Life (p.vconns s) (p.log s)
  minVersion : ∀ s, (p.vconns s).minVersion = minVersion s

theorem deliveredOne (e : Call × Reply) : [e].filterMap deliveredOf = (deliveredOf e).toList := by
  cases h : deliveredOf e <;> simp [h]

section Run
variable (cap : Nat) {minVersion : Side → Int}

theorem initInv {status : Side → Int} (connect : ∀ s, status s = 0 ∨ status s = eagain) (min : ∀ s, 0 ≤ minVersion s) :
    PairInv minVersion (init status minVersion) := by
  refine ⟨fun s => ?_,fun s => lifeInit (status s) (min s),fun s => rfl⟩
  have sound := (lifeInit (status s) (min s)).sound
  rcases connect s with zero | again
  · refine ⟨sound,?_,rfl,?_⟩ <;> simp [init,SentShape,ReadShape,vconnInit,zero]
  · refine ⟨sound,?_,rfl,?_⟩ <;> simp [init,SentShape,ReadShape,vconnInit,again]

theorem PairInv.both {p : Conn} (inv : PairInv minVersion p) (s : Side) :
    Both s (p.vconns s) (p.vconns s.peer) p.link ((p.log s).filterMap deliveredOf)
      ((p.log s.peer).filterMap deliveredOf) :=
  ⟨inv.side s,inv.side s.peer⟩

theorem stepInv {p : Conn} (inv : PairInv minVersion p) (e : Side × Call) : PairInv minVersion (step cap p e) := by
  obtain ⟨s,c⟩ := e
  have kept := callKeeps cap (inv.both s) c
  refine ⟨fun t => ?_,fun t => ?_,fun t => ?_⟩ <;> rcases Side.eqOrPeer s t with rfl | rfl
  · simpa [step,deliveredOne] using kept.1
  · simpa [step] using kept.2
  · simpa [step] using (inv.life t).call (linkClass cap t) c
  · simpa [step] using inv.life s.peer
  · simpa [step,callMinVersion] using inv.minVersion t
  · simpa [step] using inv.minVersion s.peer

theorem runInv {status : Side → Int} (connect : ∀ s, status s = 0 ∨ status s = eagain) (min : ∀ s, 0 ≤ minVersion s)
    (events : List (Side × Call)) : PairInv minVersion (run (step cap) (init status minVersion) events) :=
  (reachableRun (step cap) _ events).invariant (initInv connect min) fun _ e inv => stepInv cap inv e

/- Over every interleaving of the two sides' calls, a connected side runs at OFP_VERSION, and a side fails the
negotiation (SEND_ERROR, then DISCONNECTED) only when its own min_version is above OFP_VERSION: two sides that
both accept OFP_VERSION never fail. -/
theorem pairNegotiates {status : Side → Int} (connect : ∀ s, status s = 0 ∨ status s = eagain)
    (min : ∀ s, 0 ≤ minVersion s) (events : List (Side × Call)) (s : Side) :
    (((run (step cap) (init status minVersion) events).vconns s).state = .connected →
        ((run (step cap) (init status minVersion) events).vconns s).version = ofpVersion.toNat) ∧
      (((run (step cap) (init status minVersion) events).vconns s).state = .sendError ∨
          ((run (step cap) (init status minVersion) events).vconns s).state = .disconnected →
        (ofpVersion.toNat : Int) < minVersion s) := by
  have inv := runInv cap connect min events
  have read := (inv.side s).read
  rw [← inv.minVersion s]
  refine ⟨fun here => ?_,fun failed => ?_⟩
  · simp only [ReadShape,here] at read
    obtain ⟨_,_,_,version,_⟩ := read
    exact version
  · rcases failed with here | here <;> simp only [ReadShape,here] at read <;>
      obtain ⟨_,version,low,_⟩ := read <;> rwa [← version]

theorem pairNegotiatesHandshake :
    (∀ s : Side, (fun _ => (0 : Int)) s = 0 ∨ (fun _ => (0 : Int)) s = eagain) ∧ (∀ s : Side, 0 ≤ (fun _ => (1 : Int)) s) ∧
      ((((run (step 1) (init (fun _ => 0) fun _ => 1) (handshake .left)).vconns .left).state = .connected →
          ((run (step 1) (init (fun _ => 0) fun _ => 1) (handshake .left)).vconns .left).version = ofpVersion.toNat) ∧
        (((run (step 1) (init (fun _ => 0) fun _ => 1) (handshake .left)).vconns .left).state = .sendError ∨
            ((run (step 1) (init (fun _ => 0) fun _ => 1) (handshake .left)).vconns .left).state = .disconnected →
          (ofpVersion.toNat : Int) < (fun _ => (1 : Int)) Side.left)) :=
  ⟨fun _ => .inl rfl,fun _ => by simp,pairNegotiates 1 (fun _ => .inl rfl) (fun _ => by simp) (handshake .left) .left⟩

theorem afterHello {p : Conn} (inv : PairInv minVersion p) (s : Side) :
    (p.vconns s).wire.drop 1 = (p.log s).filterMap acceptedOf ∨
      ∃ xid, (p.vconns s).wire.drop 1 = [makeHelloFailed xid (minVersion s) ofpVersion.toNat] := by
  have shape := (inv.life s).wire
  have sent := (inv.side s).sent
  have read := (inv.side s).read
  rw [← inv.minVersion s]
  cases here : (p.vconns s).state <;> simp only [WireShape,SentShape,ReadShape,here] at shape sent read
  · exact .inl (by rw [sent,shape.2]; rfl)
  · exact .inl (by rw [sent,shape.2]; rfl)
  · obtain ⟨xid,wire⟩ := sent
    exact .inl (by rw [wire,shape.2]; rfl)
  · obtain ⟨xid,wire⟩ := shape
    exact .inl (by rw [wire]; rfl)
  · obtain ⟨xid,wire⟩ := sent
    exact .inl (by rw [wire,shape.2]; rfl)
  · obtain ⟨xid,xid',wire⟩ := sent
    obtain ⟨-,version,-,-⟩ := read
    exact .inr ⟨xid',by rw [wire,← version]; rfl⟩

/- Over every interleaving, what side `s`'s vconn_recv has returned is, in order, the messages that followed
the peer's hello on the wire up to some point, less those of another version than OFP_VERSION whose type is
not version-free, which do_recv refuses; and what followed the peer's hello is what the peer's vconn_send got
taken, or the OFPT_ERROR of the peer's failed negotiation. -/
theorem pairDelivers {status : Side → Int} (connect : ∀ s, status s = 0 ∨ status s = eagain)
    (min : ∀ s, 0 ≤ minVersion s) (events : List (Side × Call)) (s : Side) :
    (∃ n, ((run (step cap) (init status minVersion) events).log s).filterMap deliveredOf =
        ((((run (step cap) (init status minVersion) events).vconns s.peer).wire.drop 1).take n).filter
          (accepts ofpVersion.toNat)) ∧
      (((run (step cap) (init status minVersion) events).vconns s.peer).wire.drop 1 =
          ((run (step cap) (init status minVersion) events).log s.peer).filterMap acceptedOf ∨
        ∃ xid, ((run (step cap) (init status minVersion) events).vconns s.peer).wire.drop 1 =
          [makeHelloFailed xid (minVersion s.peer) ofpVersion.toNat]) := by
  have inv := runInv cap connect min events
  refine ⟨?_,afterHello inv s.peer⟩
  have read := (inv.side s).read
  have fifo := (inv.side s.peer).fifo
  rw [Side.peerPeer] at fifo
  cases here : ((run (step cap) (init status minVersion) events).vconns s).state <;>
    simp only [ReadShape,here] at read
  · exact ⟨0,by rw [read.2]; rfl⟩
  · exact ⟨0,by rw [read.2]; rfl⟩
  · exact ⟨0,by rw [read.2]; rfl⟩
  · obtain ⟨xid,rest,heard,version,delivered⟩ := read
    refine ⟨rest.length,?_⟩
    rw [delivered,version,fifo,heard]
    simp
  · exact ⟨0,by rw [read.2.2.2]; rfl⟩
  · exact ⟨0,by rw [read.2.2.2]; rfl⟩

theorem pairDeliversAfterSend :
    (∀ s : Side, (fun _ => (0 : Int)) s = 0 ∨ (fun _ => (0 : Int)) s = eagain) ∧ (∀ s : Side, 0 ≤ (fun _ => (1 : Int)) s) ∧
      ((∃ n, ((run (step 1) (init (fun _ => 0) fun _ => 1) (handshake .left ++ [(.left,.send (makeHello 7)),(.right,.recv)])).log
              Side.right).filterMap deliveredOf =
          ((((run (step 1) (init (fun _ => 0) fun _ => 1)
              (handshake .left ++ [(.left,.send (makeHello 7)),(.right,.recv)])).vconns Side.right.peer).wire.drop 1).take n).filter
            (accepts ofpVersion.toNat)) ∧
        (((run (step 1) (init (fun _ => 0) fun _ => 1)
              (handshake .left ++ [(.left,.send (makeHello 7)),(.right,.recv)])).vconns Side.right.peer).wire.drop 1 =
            ((run (step 1) (init (fun _ => 0) fun _ => 1)
              (handshake .left ++ [(.left,.send (makeHello 7)),(.right,.recv)])).log Side.right.peer).filterMap acceptedOf ∨
          ∃ xid, ((run (step 1) (init (fun _ => 0) fun _ => 1)
              (handshake .left ++ [(.left,.send (makeHello 7)),(.right,.recv)])).vconns Side.right.peer).wire.drop 1 =
            [makeHelloFailed xid ((fun _ => (1 : Int)) Side.right.peer) ofpVersion.toNat])) :=
  ⟨fun _ => .inl rfl,fun _ => by simp,
    pairDelivers 1 (fun _ => .inl rfl) (fun _ => by simp) (handshake .left ++ [(.left,.send (makeHello 7)),(.right,.recv)])
      .right⟩

end Run

end Pair
end Vconn
end OpenFlow
