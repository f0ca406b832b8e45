import Mathlib
import OpenFlow.Lib.StepSystem

/-! The reliable connection of lib/rconn.c: a state machine over an underlying vconn with a transmit queue,
driven by rconn_connect, rconn_connect_unreliably, rconn_disconnect, rconn_send, rconn_send_with_limit,
rconn_recv and rconn_run. -/
namespace OpenFlow
namespace Rconn

/- enum state -/
inductive State where
  | void
  | backoff
  | connecting
  | active
  | idle
  deriving DecidableEq, Repr

/- is_connected_state -/
def isConnectedState : State → Bool
  | .active | .idle => true
  | _ => false

/- The states in which the rconn holds a vconn. -/
def holdsVconn : State → Bool
  | .connecting | .active | .idle => true
  | _ => false

/- What a vconn call returns: 0, EAGAIN, or another error (EOF included). -/
inductive Outcome where
  | ok
  | again
  | fail
  deriving DecidableEq, Repr

/- What vconn_recv returns: a message, of whose header the rconn reads the type and the xid; EAGAIN; or
another error. -/
inductive Received where
  | msg (type : UInt8) (xid : UInt32)
  | again
  | fail
  deriving DecidableEq, Repr

def ofptEchoRequest : UInt8 := 2
def ofptEchoReply : UInt8 := 3

/- A message handed to rconn_send: the header fields the rconn reads, and the counter passed as n_queued, if
any. -/
structure Msg where
  type : UInt8
  xid : UInt32
  counter : Option Nat
  deriving DecidableEq, Repr

/- A queued message and the vconn that was open when it was accepted. -/
structure Queued where
  msg : Msg
  conn : Option Nat
  deriving DecidableEq, Repr

def timeMin : Int := -2 ^ 63
def timeMax : Int := 2 ^ 63 - 1

end Rconn

/- struct rconn, the fields the modelled calls read. -/
structure Rconn where
  state : Rconn.State
  stateEntered : Nat
  vconn : Option Nat
  reliable : Bool
  reconnectable : Bool
  txq : List Rconn.Queued
  backoff : Nat
  maxBackoff : Nat
  backoffDeadline : Int
  lastReceived : Nat
  probeInterval : Nat
  idleEchoXid : UInt32
  counters : Nat → Int
  opened : Nat
  wire : List (Option Nat × Rconn.Queued)

namespace Rconn
open StepSystem

/- rconn_create at time `now`; a max_backoff of 0 means 60 seconds. -/
def rconnCreate (probeInterval maxBackoff now : Nat) : Rconn :=
  { state := .void
    stateEntered := now
    vconn := none
    reliable := false
    reconnectable := false
    txq := []
    backoff := 0
    maxBackoff := if maxBackoff = 0 then 60 else maxBackoff
    backoffDeadline := timeMin
    lastReceived := now
    probeInterval := if probeInterval = 0 then 0 else max 1 probeInterval
    idleEchoXid := 0
    counters := fun _ => 0
    opened := 0
    wire := [] }

/- `*n_queued += d` for the message's counter, if it has one. -/
def count (counters : Nat → Int) (counter : Option Nat) (d : Int) : Nat → Int :=
  match counter with
  | some c => Function.update counters c (counters c + d)
  | none => counters

section Calls
variable (now : Nat)

def stateTransition (rc : Rconn) (state : State) : Rconn := { rc with state,stateEntered := now }

/- timeout_STATE; `none` is UINT_MAX, which never passes. -/
def timeout (rc : Rconn) : Option Nat :=
  match rc.state with
  | .void => none
  | .backoff => some rc.backoff
  | .connecting => some (max 1 rc.backoff)
  | .active =>
    if rc.probeInterval ≠ 0 then some (max rc.lastReceived rc.stateEntered + rc.probeInterval - rc.stateEntered)
    else none
  | .idle => some rc.probeInterval

def timedOut (rc : Rconn) : Bool :=
  match timeout rc with
  | some t => rc.stateEntered + t ≤ now
  | none => false

/- flush_queue: every queued message is dropped and uncounted. -/
def flushQueue (rc : Rconn) : Rconn :=
  { rc with txq := [],counters := rc.txq.foldl (fun cs q => count cs q.msg.counter (-1)) rc.counters }

def rconnDisconnect (rc : Rconn) : Rconn :=
  if rc.state ≠ .void then
    stateTransition now { rc with vconn := none,reliable := false,backoff := 0,backoffDeadline := timeMin } .void
  else rc

/- disconnect: a reliable rconn closes the vconn, drops the queue and backs off; an unreliable one is
rconn_disconnect'ed. -/
def disconnect (rc : Rconn) : Rconn :=
  if rc.reliable then
    let rc := if holdsVconn rc.state then flushQueue { rc with vconn := none } else rc
    let backoff := if rc.backoffDeadline ≤ now then 1 else min rc.maxBackoff (max 1 (2 * rc.backoff))
    stateTransition now { rc with backoff,backoffDeadline := now + backoff } .backoff
  else rconnDisconnect now rc

/- reconnect, with what vconn_open returned. -/
def reconnect (rc : Rconn) (opened : Outcome) : Rconn :=
  match opened with
  | .ok =>
    stateTransition now
      { rc with vconn := some rc.opened,opened := rc.opened + 1,reliable := rc.reliable && rc.reconnectable,
                backoffDeadline := now + rc.backoff } .connecting
  | _ => disconnect now { rc with backoffDeadline := timeMax }

/- try_send on the head of the queue, with what vconn_send returned. -/
def trySend (rc : Rconn) (sent : Outcome) : Rconn :=
  match rc.txq with
  | [] => rc
  | q :: rest =>
    match sent with
    | .ok =>
      { rc with txq := rest,idleEchoXid := q.msg.xid,counters := count rc.counters q.msg.counter (-1),
                wire := rc.wire ++ [(rc.vconn,q)] }
    | .again => { rc with idleEchoXid := 0 }
    | .fail => disconnect now { rc with idleEchoXid := 0 }

/- do_tx_work: sends until the queue is empty or a send fails; `fuel` is the length of the queue, one send per
message. -/
def doTxWork : Nat → List Outcome → Rconn → Rconn × List Outcome
  | 0,outs,rc => (rc,outs)
  | fuel + 1,outs,rc =>
    match rc.txq with
    | [] => (rc,outs)
    | _ :: _ =>
      match outs.headD .again with
      | .ok => doTxWork fuel outs.tail (trySend now rc .ok)
      | o => (trySend now rc o,outs.tail)

/- rconn_send: queues the message when connected, and tries to send it when the queue was empty; the flag is
whether it was accepted (0, not ENOTCONN). -/
def rconnSend (rc : Rconn) (msg : Msg) (sent : Outcome) : Rconn × Bool :=
  if isConnectedState rc.state then
    let rc := { rc with counters := count rc.counters msg.counter 1,txq := rc.txq ++ [⟨msg,rc.vconn⟩] }
    (if rc.txq.length = 1 then trySend now rc sent else rc,true)
  else (rc,false)

def rconnSendWithLimit (rc : Rconn) (type : UInt8) (xid : UInt32) (counter : Nat) (limit : Int) (sent : Outcome) :
    Rconn × Bool :=
  if rc.counters counter ≥ limit then (rc,false) else rconnSend now rc ⟨type,xid,some counter⟩ sent

def runBackoff (rc : Rconn) (outs : List Outcome) : Rconn × List Outcome :=
  if timedOut now rc then (reconnect now rc (outs.headD .again),outs.tail) else (rc,outs)

/- run_CONNECTING, with what vconn_connect returned. -/
def runConnecting (rc : Rconn) (connected : Outcome) : Rconn :=
  match connected with
  | .ok => stateTransition now rc .active
  | .fail => disconnect now rc
  | .again => if timedOut now rc then disconnect now { rc with backoffDeadline := timeMax } else rc

/- run_ACTIVE: past the probe interval the rconn goes IDLE first and then sends the inactivity probe, with xid
`echoXid`. -/
def runActive (echoXid : UInt32) (rc : Rconn) (outs : List Outcome) : Rconn × List Outcome :=
  if timedOut now rc then
    let rc := stateTransition now rc .idle
    let echo : Msg := ⟨ofptEchoRequest,echoXid,none⟩
    if rc.txq = [] then ((rconnSend now rc echo (outs.headD .again)).1,outs.tail)
    else ((rconnSend now rc echo .again).1,outs)
  else doTxWork now rc.txq.length outs rc

def runIdle (rc : Rconn) (outs : List Outcome) : Rconn × List Outcome :=
  if timedOut now rc then (disconnect now rc,outs) else doTxWork now rc.txq.length outs rc

/- One pass of the loop of rconn_run: run_STATE for the current state. -/
def runOnce (echoXid : UInt32) (rc : Rconn) (outs : List Outcome) : Rconn × List Outcome :=
  match rc.state with
  | .void => (rc,outs)
  | .backoff => runBackoff now rc outs
  | .connecting => (runConnecting now rc (outs.headD .again),outs.tail)
  | .active => runActive now echoXid rc outs
  | .idle => runIdle now rc outs

/- The loop `do ... while (rc->state != old_state)`, at most `fuel` passes. -/
def runLoop (echoXid : UInt32) : Nat → List Outcome → Rconn → Rconn
  | 0,_,rc => rc
  | fuel + 1,outs,rc =>
    let pass := runOnce now echoXid rc outs
    if pass.1.state = rc.state then pass.1 else runLoop echoXid fuel pass.2 pass.1

/- rconn_run with time standing still, as time_now() does between two poll_block calls; five passes are more
than its loop makes. -/
def rconnRun (echoXid : UInt32) (outs : List Outcome) (rc : Rconn) : Rconn := runLoop now echoXid 5 outs rc

/- rconn_recv, with what vconn_recv returned. -/
def rconnRecv (rc : Rconn) (got : Received) : Rconn :=
  if isConnectedState rc.state then
    match got with
    | .msg type xid =>
      let rc := { rc with lastReceived := now }
      if rc.state = .idle then
        if type = ofptEchoReply then
          if rc.idleEchoXid = 0 then stateTransition now rc .active
          else { (if rc.idleEchoXid = xid then stateTransition now rc .active else rc) with idleEchoXid := 0 }
        else stateTransition now rc .active
      else rc
    | .again => rc
    | .fail => disconnect now rc
  else rc

def rconnConnect (rc : Rconn) (reconnectable : Bool) (opened : Outcome) : Rconn :=
  reconnect now { rconnDisconnect now rc with reliable := true,reconnectable } opened

def rconnConnectUnreliably (rc : Rconn) : Rconn :=
  let rc := rconnDisconnect now rc
  stateTransition now { rc with reliable := false,vconn := some rc.opened,opened := rc.opened + 1 } .active

end Calls

/- The calls a user of an rconn makes, each with what its vconn calls return. -/
inductive Call where
  | connect (reconnectable : Bool) (opened : Outcome)
  | connectUnreliably
  | disconnect
  | send (msg : Msg) (sent : Outcome)
  | sendWithLimit (type : UInt8) (xid : UInt32) (counter : Nat) (limit : Int) (sent : Outcome)
  | recv (got : Received)
  | run (echoXid : UInt32) (outs : List Outcome)

/- One call at time `now`. -/
def step (rc : Rconn) : Nat × Call → Rconn
  | (now,.connect reconnectable opened) => rconnConnect now rc reconnectable opened
  | (now,.connectUnreliably) => rconnConnectUnreliably now rc
  | (now,.disconnect) => rconnDisconnect now rc
  | (now,.send msg sent) => (rconnSend now rc msg sent).1
  | (now,.sendWithLimit type xid counter limit sent) => (rconnSendWithLimit now rc type xid counter limit sent).1
  | (now,.recv got) => rconnRecv now rc got
  | (now,.run echoXid outs) => rconnRun now echoXid outs rc

theorem holdsOfConnected {state : State} (connected : isConnectedState state = true) : holdsVconn state = true := by
  cases state <;> simp_all [isConnectedState,holdsVconn]

/- do_tx_work, rconn_send_with_limit and the loop of rconn_run only repeat or guard other calls: what those
keep, they keep. -/
section Lift
variable (now : Nat) {I : Rconn → Prop}

theorem doTxWorkLift (trySendKeeps : ∀ rc sent, I rc → I (trySend now rc sent)) {rc : Rconn} (h : I rc) (fuel : Nat)
    (outs : List Outcome) : I (doTxWork now fuel outs rc).1 := by
  induction fuel generalizing rc outs with
  | zero => exact h
  | succ fuel ih =>
    unfold doTxWork
    split
    · exact h
    · split
      · exact ih (trySendKeeps rc .ok h) _
      · exact trySendKeeps rc _ h

theorem sendWithLimitLift (sendKeeps : ∀ rc msg sent, I rc → I (rconnSend now rc msg sent).1) {rc : Rconn} (h : I rc)
    (type : UInt8) (xid : UInt32) (counter : Nat) (limit : Int) (sent : Outcome) :
    I (rconnSendWithLimit now rc type xid counter limit sent).1 := by
  unfold rconnSendWithLimit
  split
  · exact h
  · exact sendKeeps rc _ sent h

theorem runLoopLift (echoXid : UInt32) (onceKeeps : ∀ rc outs, I rc → I (runOnce now echoXid rc outs).1) {rc : Rconn}
    (h : I rc) (fuel : Nat) (outs : List Outcome) : I (runLoop now echoXid fuel outs rc) := by
  induction fuel generalizing rc outs with
  | zero => exact h
  | succ fuel ih =>
    unfold runLoop
    dsimp only
    split
    · exact onceKeeps rc outs h
    · exact ih (onceKeeps rc outs h) _

theorem rconnRecvCases (rc : Rconn) (got : Received) :
    rconnRecv now rc got = rc ∨
      (∃ xid, rconnRecv now rc got = { rc with lastReceived := now,idleEchoXid := xid }) ∨
      (rc.state = .idle ∧ ∃ xid,
        rconnRecv now rc got = { stateTransition now { rc with lastReceived := now } .active with idleEchoXid := xid }) ∨
      rconnRecv now rc got = disconnect now rc := by
  unfold rconnRecv
  split
  · cases got with
    | msg type xid =>
      dsimp only
      split
      · next idle =>
        split
        · split
          · exact .inr (.inr (.inl ⟨idle,rc.idleEchoXid,rfl⟩))
          · split
            · exact .inr (.inr (.inl ⟨idle,0,rfl⟩))
            · exact .inr (.inl ⟨0,rfl⟩)
        · exact .inr (.inr (.inl ⟨idle,rc.idleEchoXid,rfl⟩))
      · exact .inr (.inl ⟨rc.idleEchoXid,rfl⟩)
    | again => exact .inl rfl
    | fail => exact .inr (.inr (.inr rfl))
  · exact .inl rfl

end Lift

/- The vconn is open exactly in the states that hold one. -/
def VconnOpen (rc : Rconn) : Prop := rc.vconn.isSome = holdsVconn rc.state

section Open
variable (now : Nat) {rc : Rconn}

theorem rconnDisconnectOpen (h : VconnOpen rc) : VconnOpen (rconnDisconnect now rc) := by
  unfold rconnDisconnect
  split
  · simp [VconnOpen,stateTransition,holdsVconn]
  · exact h

theorem disconnectOpen (h : VconnOpen rc) : VconnOpen (disconnect now rc) := by
  unfold disconnect
  split
  · -- the vconn is closed where it was open, and was closed elsewhere
    have closed : (if holdsVconn rc.state then flushQueue { rc with vconn := none } else rc).vconn = none := by
      split
      · rfl
      · next idle => simpa [VconnOpen,idle] using h
    simp only [VconnOpen,stateTransition,closed]
    rfl
  · exact rconnDisconnectOpen now h

theorem stateTransitionOpen (h : VconnOpen rc) {state : State} (same : holdsVconn state = holdsVconn rc.state) :
    VconnOpen (stateTransition now rc state) := by
  show rc.vconn.isSome = holdsVconn state
  rw [h,same]

theorem reconnectOpen (h : VconnOpen rc) (opened : Outcome) : VconnOpen (reconnect now rc opened) := by
  cases opened with
  | ok => rfl
  | again => exact disconnectOpen now h
  | fail => exact disconnectOpen now h

theorem trySendOpen (h : VconnOpen rc) (sent : Outcome) : VconnOpen (trySend now rc sent) := by
  unfold trySend
  split
  · exact h
  · cases sent with
    | ok => exact h
    | again => exact h
    | fail => exact disconnectOpen now h

theorem doTxWorkOpen (h : VconnOpen rc) (fuel : Nat) (outs : List Outcome) :
    VconnOpen (doTxWork now fuel outs rc).1 :=
  doTxWorkLift (I := VconnOpen) now (fun _ sent h => trySendOpen now h sent) h fuel outs

theorem rconnSendOpen (h : VconnOpen rc) (msg : Msg) (sent : Outcome) : VconnOpen (rconnSend now rc msg sent).1 := by
  unfold rconnSend
  split
  · dsimp only
    split
    · apply trySendOpen
      exact h
    · exact h
  · exact h

theorem rconnSendWithLimitOpen (h : VconnOpen rc) (type : UInt8) (xid : UInt32) (counter : Nat) (limit : Int)
    (sent : Outcome) : VconnOpen (rconnSendWithLimit now rc type xid counter limit sent).1 :=
  sendWithLimitLift (I := VconnOpen) now (fun _ msg sent h => rconnSendOpen now h msg sent) h type xid counter limit sent

theorem runConnectingOpen (h : VconnOpen rc) (connecting : rc.state = .connecting) (connected : Outcome) :
    VconnOpen (runConnecting now rc connected) := by
  unfold runConnecting
  split
  · exact stateTransitionOpen now h (by rw [connecting]; rfl)
  · exact disconnectOpen now h
  · split
    · apply disconnectOpen
      exact h
    · exact h

theorem runActiveOpen (h : VconnOpen rc) (active : rc.state = .active) (echoXid : UInt32) (outs : List Outcome) :
    VconnOpen (runActive now echoXid rc outs).1 := by
  unfold runActive
  split
  · -- the probe goes out from IDLE, which still holds the vconn
    have idle : VconnOpen (stateTransition now rc .idle) := stateTransitionOpen now h (by rw [active]; rfl)
    dsimp only
    split
    · exact rconnSendOpen now idle _ _
    · exact rconnSendOpen now idle _ _
  · exact doTxWorkOpen now h _ _

theorem runOnceOpen (h : VconnOpen rc) (echoXid : UInt32) (outs : List Outcome) :
    VconnOpen (runOnce now echoXid rc outs).1 := by
  unfold runOnce
  split
  · exact h
  · unfold runBackoff
    split
    · exact reconnectOpen now h _
    · exact h
  · next connecting => exact runConnectingOpen now h connecting _
  · next active => exact runActiveOpen now h active echoXid outs
  · unfold runIdle
    split
    · exact disconnectOpen now h
    · exact doTxWorkOpen now h _ _

theorem runLoopOpen (h : VconnOpen rc) (echoXid : UInt32) (fuel : Nat) (outs : List Outcome) :
    VconnOpen (runLoop now echoXid fuel outs rc) :=
  runLoopLift (I := VconnOpen) now echoXid (fun _ outs h => runOnceOpen now h echoXid outs) h fuel outs

theorem rconnRecvOpen (h : VconnOpen rc) (got : Received) : VconnOpen (rconnRecv now rc got) := by
  rcases rconnRecvCases now rc got with same | ⟨xid,heard⟩ | ⟨idle,xid,active⟩ | dropped
  · rw [same]
    exact h
  · rw [heard]
    exact h
  · -- IDLE and ACTIVE both hold the vconn
    rw [active]
    show VconnOpen (stateTransition now { rc with lastReceived := now } .active)
    exact stateTransitionOpen now h (by rw [idle]; rfl)
  · rw [dropped]
    exact disconnectOpen now h

theorem rconnConnectOpen (h : VconnOpen rc) (reconnectable : Bool) (opened : Outcome) :
    VconnOpen (rconnConnect now rc reconnectable opened) := by
  apply reconnectOpen
  exact rconnDisconnectOpen now h

theorem rconnConnectUnreliablyOpen : VconnOpen (rconnConnectUnreliably now rc) := rfl

end Open

theorem stepOpen {rc : Rconn} (h : VconnOpen rc) : ∀ call : Nat × Call, VconnOpen (step rc call)
  | (now,.connect reconnectable opened) => rconnConnectOpen now h reconnectable opened
  | (now,.connectUnreliably) => rconnConnectUnreliablyOpen now
  | (now,.disconnect) => rconnDisconnectOpen now h
  | (now,.send msg sent) => rconnSendOpen now h msg sent
  | (now,.sendWithLimit type xid counter limit sent) => rconnSendWithLimitOpen now h type xid counter limit sent
  | (now,.recv got) => rconnRecvOpen now h got
  | (now,.run echoXid outs) => runLoopOpen now h echoXid 5 outs

theorem rconnCreateOpen (probeInterval maxBackoff now : Nat) : VconnOpen (rconnCreate probeInterval maxBackoff now) :=
  rfl

/- On every run from rconn_create, whatever the vconn calls return, the vconn is open exactly in CONNECTING,
ACTIVE and IDLE. -/
theorem vconnOpenReachable {probeInterval maxBackoff created : Nat} {rc : Rconn}
    (reach : Reachable step (rconnCreate probeInterval maxBackoff created) rc) : VconnOpen rc :=
  reach.invariant (rconnCreateOpen probeInterval maxBackoff created) fun _ call h => stepOpen h call

theorem vconnOpenAfterDisconnect :
    Reachable step (rconnCreate 0 0 0) (run step (rconnCreate 0 0 0) [(0,.connect true .ok),(0,.run 0 [.ok]),(2,.disconnect)]) ∧
      VconnOpen (run step (rconnCreate 0 0 0) [(0,.connect true .ok),(0,.run 0 [.ok]),(2,.disconnect)]) :=
  ⟨reachableRun _ _ _,vconnOpenReachable (reachableRun _ _ _)⟩

/- What holds while an rconn keeps the promise of rconn.h that queued messages are dropped when it has to
reconnect: it is reliable and its name's vconns reconnect, the queue is empty unless connected, every queued
message was accepted on the vconn now open, and every message on the wire went out on the vconn that accepted
it. -/
structure Keeps (rc : Rconn) : Prop where
  vconnOpen : VconnOpen rc
  reliable : rc.reliable = true
  reconnectable : rc.reconnectable = true
  parked : isConnectedState rc.state = false → rc.txq = []
  owned : ∀ q ∈ rc.txq, q.conn = rc.vconn
  delivered : ∀ e ∈ rc.wire, e.1 = e.2.conn

theorem Keeps.frame {rc rc' : Rconn} (h : Keeps rc) (state : rc'.state = rc.state) (vconn : rc'.vconn = rc.vconn)
    (reliable : rc'.reliable = rc.reliable) (reconnectable : rc'.reconnectable = rc.reconnectable)
    (txq : rc'.txq = rc.txq) (wire : rc'.wire = rc.wire) : Keeps rc' := by
  obtain ⟨vconnOpen,isReliable,isReconnectable,parked,owned,delivered⟩ := h
  refine ⟨?_,reliable.trans isReliable,reconnectable.trans isReconnectable,?_,?_,?_⟩
  · unfold VconnOpen at *
    rw [state,vconn]
    exact vconnOpen
  · rw [state,txq]
    exact parked
  · rw [txq,vconn]
    exact owned
  · rw [wire]
    exact delivered

section Session
variable (now : Nat) {rc : Rconn}

@[simp] theorem rconnDisconnectTxq : (rconnDisconnect now rc).txq = rc.txq := by
  unfold rconnDisconnect
  split <;> rfl

@[simp] theorem rconnDisconnectWire : (rconnDisconnect now rc).wire = rc.wire := by
  unfold rconnDisconnect
  split <;> rfl

theorem disconnectReliable (reliable : rc.reliable = true) (h : VconnOpen rc)
    (parked : isConnectedState rc.state = false → rc.txq = []) :
    (disconnect now rc).state = .backoff ∧ (disconnect now rc).vconn = none ∧ (disconnect now rc).txq = [] ∧
      (disconnect now rc).reliable = true ∧ (disconnect now rc).reconnectable = rc.reconnectable ∧
      (disconnect now rc).wire = rc.wire := by
  unfold disconnect
  rw [if_pos reliable]
  by_cases held : holdsVconn rc.state
  · simp [held,stateTransition,flushQueue,reliable]
  · -- a state without a vconn is not connected, so its queue is already empty
    have closed : rc.vconn = none := by simpa [VconnOpen,held] using h
    have empty : rc.txq = [] := parked (by cases c : isConnectedState rc.state <;> simp_all [holdsOfConnected])
    simp [held,stateTransition,closed,empty,reliable]

theorem disconnectKeeps (h : Keeps rc) : Keeps (disconnect now rc) := by
  obtain ⟨state,vconn,txq,reliable,reconnectable,wire⟩ := disconnectReliable now h.reliable h.vconnOpen h.parked
  refine ⟨disconnectOpen now h.vconnOpen,reliable,reconnectable.trans h.reconnectable,fun _ => txq,?_,?_⟩
  · simp [txq]
  · rw [wire]
    exact h.delivered

theorem stateTransitionKeeps (h : Keeps rc) {state : State} (same : holdsVconn state = holdsVconn rc.state)
    (parked : isConnectedState state = false → rc.txq = []) : Keeps (stateTransition now rc state) :=
  ⟨stateTransitionOpen now h.vconnOpen same,h.reliable,h.reconnectable,parked,h.owned,h.delivered⟩

theorem reconnectKeeps (h : Keeps rc) (empty : rc.txq = []) (opened : Outcome) : Keeps (reconnect now rc opened) := by
  cases opened with
  | ok =>
    refine ⟨reconnectOpen now h.vconnOpen .ok,?_,h.reconnectable,fun _ => empty,?_,h.delivered⟩
    · simp [reconnect,stateTransition,h.reliable,h.reconnectable]
    · simp [reconnect,stateTransition,empty]
  | again => exact disconnectKeeps now (h.frame rfl rfl rfl rfl rfl rfl)
  | fail => exact disconnectKeeps now (h.frame rfl rfl rfl rfl rfl rfl)

theorem trySendKeeps (h : Keeps rc) (sent : Outcome) : Keeps (trySend now rc sent) := by
  unfold trySend
  split
  · exact h
  · next q rest queue =>
    cases sent with
    | ok =>
      have head : q.conn = rc.vconn := h.owned q (by simp [queue])
      refine ⟨h.vconnOpen,h.reliable,h.reconnectable,?_,?_,?_⟩
      · intro idle
        have empty := h.parked idle
        simp [queue] at empty
      · intro q' mem
        exact h.owned q' (by simp [queue,mem])
      · intro e mem
        rcases List.mem_append.mp mem with old | sentNow
        · exact h.delivered e old
        · rw [List.mem_singleton.mp sentNow]
          exact head.symm
    | again => exact h.frame rfl rfl rfl rfl rfl rfl
    | fail => exact disconnectKeeps now (h.frame rfl rfl rfl rfl rfl rfl)

theorem doTxWorkKeeps (h : Keeps rc) (fuel : Nat) (outs : List Outcome) : Keeps (doTxWork now fuel outs rc).1 :=
  doTxWorkLift (I := Keeps) now (fun _ sent h => trySendKeeps now h sent) h fuel outs

theorem rconnSendKeeps (h : Keeps rc) (msg : Msg) (sent : Outcome) : Keeps (rconnSend now rc msg sent).1 := by
  unfold rconnSend
  split
  · next connected =>
    have queued : Keeps { rc with counters := count rc.counters msg.counter 1,txq := rc.txq ++ [⟨msg,rc.vconn⟩] } := by
      refine ⟨h.vconnOpen,h.reliable,h.reconnectable,?_,?_,h.delivered⟩
      · intro idle
        simp only at idle
        simp [idle] at connected
      · intro q mem
        rcases List.mem_append.mp mem with old | added
        · exact h.owned q old
        · rw [List.mem_singleton.mp added]
    dsimp only
    split
    · exact trySendKeeps now queued sent
    · exact queued
  · exact h

theorem rconnSendWithLimitKeeps (h : Keeps rc) (type : UInt8) (xid : UInt32) (counter : Nat) (limit : Int)
    (sent : Outcome) : Keeps (rconnSendWithLimit now rc type xid counter limit sent).1 :=
  sendWithLimitLift (I := Keeps) now (fun _ msg sent h => rconnSendKeeps now h msg sent) h type xid counter limit sent

theorem runConnectingKeeps (h : Keeps rc) (connecting : rc.state = .connecting) (connected : Outcome) :
    Keeps (runConnecting now rc connected) := by
  unfold runConnecting
  split
  · -- CONNECTING has nothing queued
    exact stateTransitionKeeps now h (by rw [connecting]; rfl) fun _ => h.parked (by rw [connecting]; rfl)
  · exact disconnectKeeps now h
  · split
    · exact disconnectKeeps now (h.frame rfl rfl rfl rfl rfl rfl)
    · exact h

theorem runActiveKeeps (h : Keeps rc) (active : rc.state = .active) (echoXid : UInt32) (outs : List Outcome) :
    Keeps (runActive now echoXid rc outs).1 := by
  unfold runActive
  split
  · have idle : Keeps (stateTransition now rc .idle) :=
      stateTransitionKeeps now h (by rw [active]; rfl) fun idle => nomatch idle
    dsimp only
    split
    · exact rconnSendKeeps now idle _ _
    · exact rconnSendKeeps now idle _ _
  · exact doTxWorkKeeps now h _ _

theorem runOnceKeeps (h : Keeps rc) (echoXid : UInt32) (outs : List Outcome) :
    Keeps (runOnce now echoXid rc outs).1 := by
  unfold runOnce
  split
  · exact h
  · next backoff =>
    unfold runBackoff
    split
    · exact reconnectKeeps now h (h.parked (by rw [backoff]; rfl)) _
    · exact h
  · next connecting => exact runConnectingKeeps now h connecting _
  · next active => exact runActiveKeeps now h active echoXid outs
  · unfold runIdle
    split
    · exact disconnectKeeps now h
    · exact doTxWorkKeeps now h _ _

theorem runLoopKeeps (h : Keeps rc) (echoXid : UInt32) (fuel : Nat) (outs : List Outcome) :
    Keeps (runLoop now echoXid fuel outs rc) :=
  runLoopLift (I := Keeps) now echoXid (fun _ outs h => runOnceKeeps now h echoXid outs) h fuel outs

theorem rconnRecvKeeps (h : Keeps rc) (got : Received) : Keeps (rconnRecv now rc got) := by
  rcases rconnRecvCases now rc got with same | ⟨xid,heard⟩ | ⟨idle,xid,active⟩ | dropped
  · rw [same]
    exact h
  · rw [heard]
    exact h.frame rfl rfl rfl rfl rfl rfl
  · -- IDLE goes back to ACTIVE; both are connected
    have heard : Keeps { rc with lastReceived := now } := h.frame rfl rfl rfl rfl rfl rfl
    have back : Keeps (stateTransition now { rc with lastReceived := now } .active) :=
      stateTransitionKeeps now heard (by simp only [idle]; rfl) fun active => nomatch active
    rw [active]
    exact back.frame rfl rfl rfl rfl rfl rfl
  · rw [dropped]
    exact disconnectKeeps now h

theorem rconnConnectKeeps (h : VconnOpen rc) (empty : rc.txq = []) (delivered : ∀ e ∈ rc.wire, e.1 = e.2.conn)
    (opened : Outcome) : Keeps (rconnConnect now rc true opened) := by
  apply reconnectKeeps
  · exact ⟨rconnDisconnectOpen now h,rfl,rfl,fun _ => by simp [empty],by simp [empty],by simpa using delivered⟩
  · simp [empty]

end Session

/- The calls that carry a connection on: all but connecting and disconnecting. -/
def Call.session : Call → Bool
  | .connect .. | .connectUnreliably | .disconnect => false
  | _ => true

theorem stepKeeps {rc : Rconn} (h : Keeps rc) : ∀ call : Nat × Call, call.2.session = true → Keeps (step rc call)
  | (now,.send msg sent),_ => rconnSendKeeps now h msg sent
  | (now,.sendWithLimit type xid counter limit sent),_ => rconnSendWithLimitKeeps now h type xid counter limit sent
  | (now,.recv got),_ => rconnRecvKeeps now h got
  | (now,.run echoXid outs),_ => runLoopKeeps now h echoXid 5 outs

/- After rconn_create and rconn_connect to a name whose vconns reconnect, as long as the rconn is only sent
on, received from and run, every message that reaches a vconn went out on the vconn that accepted it. -/
theorem sessionDelivers (probeInterval maxBackoff created now : Nat) (opened : Outcome) {calls : List (Nat × Call)}
    (session : ∀ call ∈ calls, call.2.session = true) :
    ∀ e ∈ (run step (rconnConnect now (rconnCreate probeInterval maxBackoff created) true opened) calls).wire,
      e.1 = e.2.conn := by
  have connected : Keeps (rconnConnect now (rconnCreate probeInterval maxBackoff created) true opened) :=
    rconnConnectKeeps now (rconnCreateOpen probeInterval maxBackoff created) rfl (by simp [rconnCreate]) opened
  have keep : ∀ rc call, Call.session (Prod.snd call) = true → Keeps rc → Keeps (step rc call) :=
    fun _ call allowed h => stepKeeps h call allowed
  exact (runInvariant keep calls session connected).delivered

theorem sessionDeliversQueued :
    (∀ call ∈ ([(1,.send ⟨0,7,none⟩ .again),(2,.run 0 [.ok,.ok])] : List (Nat × Call)), call.2.session = true) ∧
      ∀ e ∈ (run step (rconnConnect 0 (rconnCreate 0 0 0) true .ok) [(1,.send ⟨0,7,none⟩ .again),(2,.run 0 [.ok,.ok])]).wire,
        e.1 = e.2.conn :=
  have session : ∀ call ∈ ([(1,.send ⟨0,7,none⟩ .again),(2,.run 0 [.ok,.ok])] : List (Nat × Call)),
      call.2.session = true := by
    decide
  ⟨session,sessionDelivers 0 0 0 0 .ok session⟩

/- An OFPT_HELLO with xid 7 and no counter. -/
def hello : Msg := ⟨0,7,none⟩

/- rconn_connect opens vconn 0, which connects; rconn_send queues a message that vconn 0 takes with EAGAIN;
rconn_disconnect; rconn_connect opens vconn 1, which connects and takes the message. -/
def requeued : List (Nat × Call) :=
  [(0,.connect true .ok),(0,.run 0 [.ok]),(1,.send hello .again),(2,.disconnect),(3,.connect true .ok),
    (3,.run 0 [.ok,.ok])]

theorem disconnectKeepsQueue :
    (run step (rconnCreate 0 0 0) (requeued.take 4)).state = .void ∧
    (run step (rconnCreate 0 0 0) (requeued.take 4)).txq = [⟨hello,some 0⟩] ∧
    (run step (rconnCreate 0 0 0) (requeued.take 5)).state = .connecting ∧
    (run step (rconnCreate 0 0 0) (requeued.take 5)).txq = [⟨hello,some 0⟩] ∧
    (run step (rconnCreate 0 0 0) requeued).wire = [(some 1,⟨hello,some 0⟩)] := by
  refine ⟨rfl,rfl,rfl,rfl,rfl⟩

/- How many queued messages carry counter `c`. -/
def queuedWith (c : Nat) (txq : List Queued) : Nat := txq.countP fun q => q.msg.counter == some c

/- Each counter stands above its value before the first call by the number of queued messages that carry it.
-/
def Counted (init : Nat → Int) (rc : Rconn) : Prop := ∀ c, rc.counters c = init c + queuedWith c rc.txq

theorem countAt (counters : Nat → Int) (counter : Option Nat) (d : Int) (c : Nat) :
    count counters counter d c = counters c + if counter == some c then d else 0 := by
  cases counter with
  | none => simp [count]
  | some c' =>
    by_cases same : c = c'
    · subst same
      simp [count]
    · have differ : (some c' == some c) = false := by simpa using Ne.symm same
      simp [count,Function.update_of_ne same,differ]

theorem flushCounters (c : Nat) :
    ∀ (txq : List Queued) (counters : Nat → Int),
      txq.foldl (fun cs q => count cs q.msg.counter (-1)) counters c = counters c - queuedWith c txq := by
  intro txq
  induction txq with
  | nil => simp [queuedWith]
  | cons q rest ih =>
    intro counters
    rw [List.foldl_cons,ih,countAt]
    simp only [queuedWith,List.countP_cons]
    split_ifs with carries
    · push_cast
      ring
    · simp

section Counted
variable {init : Nat → Int} (now : Nat) {rc : Rconn}

theorem Counted.frame {rc' : Rconn} (h : Counted init rc) (counters : rc'.counters = rc.counters)
    (txq : rc'.txq = rc.txq) : Counted init rc' := by
  intro c
  rw [counters,txq]
  exact h c

theorem flushQueueCounted (h : Counted init rc) : Counted init (flushQueue rc) := by
  intro c
  simp only [flushQueue,flushCounters,h c,queuedWith,List.countP_nil,Nat.cast_zero,add_zero]
  ring

theorem rconnDisconnectCounted (h : Counted init rc) : Counted init (rconnDisconnect now rc) := by
  unfold rconnDisconnect
  split
  · exact h.frame rfl rfl
  · exact h

theorem disconnectCounted (h : Counted init rc) : Counted init (disconnect now rc) := by
  unfold disconnect
  split
  · -- whatever the queue held is dropped and uncounted
    have dropped : Counted init (if holdsVconn rc.state then flushQueue { rc with vconn := none } else rc) := by
      split
      · exact flushQueueCounted (h.frame rfl rfl)
      · exact h
    exact dropped.frame rfl rfl
  · exact rconnDisconnectCounted now h

theorem reconnectCounted (h : Counted init rc) (opened : Outcome) : Counted init (reconnect now rc opened) := by
  cases opened with
  | ok => exact h.frame rfl rfl
  | again => exact disconnectCounted now (h.frame rfl rfl)
  | fail => exact disconnectCounted now (h.frame rfl rfl)

theorem trySendCounted (h : Counted init rc) (sent : Outcome) : Counted init (trySend now rc sent) := by
  unfold trySend
  split
  · exact h
  · next q rest queue =>
    cases sent with
    | ok =>
      intro c
      have before := h c
      rw [queue,queuedWith,List.countP_cons] at before
      simp only [countAt,before,queuedWith]
      split_ifs with carries
      · push_cast
        ring
      · simp
    | again => exact h.frame rfl rfl
    | fail => exact disconnectCounted now (h.frame rfl rfl)

theorem doTxWorkCounted (h : Counted init rc) (fuel : Nat) (outs : List Outcome) :
    Counted init (doTxWork now fuel outs rc).1 :=
  doTxWorkLift (I := Counted init) now (fun _ sent h => trySendCounted now h sent) h fuel outs

theorem rconnSendCounted (h : Counted init rc) (msg : Msg) (sent : Outcome) :
    Counted init (rconnSend now rc msg sent).1 := by
  unfold rconnSend
  split
  · -- the message joins the queue and its counter
    have queued : Counted init { rc with counters := count rc.counters msg.counter 1,txq := rc.txq ++ [⟨msg,rc.vconn⟩] } := by
      intro c
      simp only [countAt,h c,queuedWith,List.countP_append,List.countP_singleton]
      split_ifs with carries
      · push_cast
        ring
      · simp
    dsimp only
    split
    · exact trySendCounted now queued sent
    · exact queued
  · exact h

theorem rconnSendWithLimitCounted (h : Counted init rc) (type : UInt8) (xid : UInt32) (counter : Nat) (limit : Int)
    (sent : Outcome) : Counted init (rconnSendWithLimit now rc type xid counter limit sent).1 :=
  sendWithLimitLift (I := Counted init) now (fun _ msg sent h => rconnSendCounted now h msg sent) h type xid counter limit sent

theorem runOnceCounted (h : Counted init rc) (echoXid : UInt32) (outs : List Outcome) :
    Counted init (runOnce now echoXid rc outs).1 := by
  unfold runOnce
  split
  · exact h
  · unfold runBackoff
    split
    · exact reconnectCounted now h _
    · exact h
  · unfold runConnecting
    split
    · exact h.frame rfl rfl
    · exact disconnectCounted now h
    · split
      · exact disconnectCounted now (h.frame rfl rfl)
      · exact h
  · unfold runActive
    split
    · -- the probe is sent from IDLE like any other message
      have idle : Counted init (stateTransition now rc .idle) := h.frame rfl rfl
      dsimp only
      split
      · exact rconnSendCounted now idle _ _
      · exact rconnSendCounted now idle _ _
    · exact doTxWorkCounted now h _ _
  · unfold runIdle
    split
    · exact disconnectCounted now h
    · exact doTxWorkCounted now h _ _

theorem runLoopCounted (h : Counted init rc) (echoXid : UInt32) (fuel : Nat) (outs : List Outcome) :
    Counted init (runLoop now echoXid fuel outs rc) :=
  runLoopLift (I := Counted init) now echoXid (fun _ outs h => runOnceCounted now h echoXid outs) h fuel outs

theorem rconnRecvCounted (h : Counted init rc) (got : Received) : Counted init (rconnRecv now rc got) := by
  rcases rconnRecvCases now rc got with same | ⟨xid,heard⟩ | ⟨idle,xid,active⟩ | dropped
  · rw [same]
    exact h
  · rw [heard]
    exact h.frame rfl rfl
  · rw [active]
    exact h.frame rfl rfl
  · rw [dropped]
    exact disconnectCounted now h

end Counted

theorem stepCounted {init : Nat → Int} {rc : Rconn} (h : Counted init rc) : ∀ call : Nat × Call, Counted init (step rc call)
  | (now,.connect reconnectable opened) => by
    have closed : Counted init { rconnDisconnect now rc with reliable := true,reconnectable } :=
      (rconnDisconnectCounted now h).frame rfl rfl
    exact reconnectCounted now closed opened
  | (now,.connectUnreliably) => by
    have closed := rconnDisconnectCounted now h
    exact closed.frame rfl rfl
  | (now,.disconnect) => rconnDisconnectCounted now h
  | (now,.send msg sent) => rconnSendCounted now h msg sent
  | (now,.sendWithLimit type xid counter limit sent) => rconnSendWithLimitCounted now h type xid counter limit sent
  | (now,.recv got) => rconnRecvCounted now h got
  | (now,.run echoXid outs) => runLoopCounted now h echoXid 5 outs

section Bound
variable (now : Nat) (c : Nat) {rc : Rconn}

theorem flushQueueLe : (flushQueue rc).counters c ≤ rc.counters c := by
  simp only [flushQueue,flushCounters]
  omega

theorem disconnectLe : (disconnect now rc).counters c ≤ rc.counters c := by
  unfold disconnect
  split
  · show (if holdsVconn rc.state then flushQueue { rc with vconn := none } else rc).counters c ≤ rc.counters c
    split
    · exact flushQueueLe c
    · exact le_refl _
  · unfold rconnDisconnect
    split <;> exact le_refl _

theorem trySendLe (sent : Outcome) : (trySend now rc sent).counters c ≤ rc.counters c := by
  unfold trySend
  split
  · exact le_refl _
  · cases sent with
    | ok =>
      show count rc.counters _ (-1) c ≤ rc.counters c
      rw [countAt]
      split_ifs <;> omega
    | again => exact le_refl _
    | fail => exact disconnectLe now c

theorem rconnSendLe (msg : Msg) (sent : Outcome) : (rconnSend now rc msg sent).1.counters c ≤ rc.counters c + 1 := by
  unfold rconnSend
  split
  · -- queueing adds at most one; the send that may follow only takes away
    have queued : count rc.counters msg.counter 1 c ≤ rc.counters c + 1 := by
      rw [countAt]
      split_ifs <;> omega
    dsimp only
    split
    · exact (trySendLe now c sent).trans queued
    · exact queued
  · simp

theorem sendWithLimitBelow (type : UInt8) (xid : UInt32) (limit : Int) (sent : Outcome) :
    (rconnSendWithLimit now rc type xid c limit sent).1.counters c ≤ max (rc.counters c) limit := by
  unfold rconnSendWithLimit
  split
  · exact le_max_left _ _
  · next below =>
    have sendOne : (rconnSend now rc ⟨type,xid,some c⟩ sent).1.counters c ≤ rc.counters c + 1 :=
      rconnSendLe now c _ sent
    omega

end Bound

/- A run from rconn_create in which the counters the caller passes start at `init`, none below zero (every
caller allocates them zeroed): at every point each counter is its start plus the number of queued messages
that carry it, and rconn_send_with_limit never takes the number queued with its counter past the limit. -/
theorem queuedCounted (probeInterval maxBackoff created : Nat) (init : Nat → Int) (zeroed : ∀ c, 0 ≤ init c)
    (calls : List (Nat × Call)) :
    Counted init (run step { rconnCreate probeInterval maxBackoff created with counters := init } calls) ∧
    ∀ now type xid c limit sent,
      (queuedWith c (step (run step { rconnCreate probeInterval maxBackoff created with counters := init } calls)
          (now,.sendWithLimit type xid c limit sent)).txq : Int) ≤
        max (queuedWith c (run step { rconnCreate probeInterval maxBackoff created with counters := init } calls).txq : Int)
          limit := by
  generalize created' : { rconnCreate probeInterval maxBackoff created with counters := init } = start
  have begun : Counted init start := by
    intro c
    simp [← created',rconnCreate,queuedWith]
  have counted := (reachableRun step start calls).invariant begun fun _ call h => stepCounted h call
  refine ⟨counted,fun now type xid c limit sent => ?_⟩
  have after := stepCounted counted (now,.sendWithLimit type xid c limit sent) c
  have below : (rconnSendWithLimit now (run step start calls) type xid c limit sent).1.counters c ≤
      max ((run step start calls).counters c) limit := sendWithLimitBelow now c type xid limit sent
  have before := counted c
  have nonneg := zeroed c
  simp only [step] at after ⊢
  omega

/- Counters from zero, after a message sent with a limit of 1 waits in the queue. -/
theorem queuedCountedFromZero :
    (∀ c, 0 ≤ (fun _ => 0 : Nat → Int) c) ∧
      Counted (fun _ => 0) (run step { rconnCreate 0 0 0 with counters := fun _ => 0 }
        [(0,.connect true .ok),(0,.run 0 [.ok]),(1,.sendWithLimit 0 5 0 1 .again)]) ∧
      ∀ now type xid c limit sent,
        (queuedWith c (step (run step { rconnCreate 0 0 0 with counters := fun _ => 0 }
            [(0,.connect true .ok),(0,.run 0 [.ok]),(1,.sendWithLimit 0 5 0 1 .again)])
            (now,.sendWithLimit type xid c limit sent)).txq : Int) ≤
          max (queuedWith c (run step { rconnCreate 0 0 0 with counters := fun _ => 0 }
            [(0,.connect true .ok),(0,.run 0 [.ok]),(1,.sendWithLimit 0 5 0 1 .again)]).txq : Int) limit :=
  ⟨fun _ => le_refl 0,queuedCounted 0 0 0 (fun _ => 0) (fun _ => le_refl 0) _⟩

/- The inactivity probe answered after another message went out in IDLE. -/
def probeAnswered : List (Nat × Call) :=
  [(0,.connect true .ok),(0,.run 0 [.ok]),(5,.run 77 [.ok]),(6,.send ⟨0,99,none⟩ .ok),
    (7,.recv (.msg ofptEchoReply 77)),(10,.run 0 [])]

/- The reply leaves the rconn IDLE, and the next run, at 10, disconnects it for an unanswered probe. -/
theorem echoReplyIgnored :
    (run step (rconnCreate 5 0 0) (probeAnswered.take 3)).state = .idle ∧
      (run step (rconnCreate 5 0 0) (probeAnswered.take 3)).idleEchoXid = 77 ∧
      (run step (rconnCreate 5 0 0) (probeAnswered.take 4)).idleEchoXid = 99 ∧
      (run step (rconnCreate 5 0 0) (probeAnswered.take 5)).state = .idle ∧
      (run step (rconnCreate 5 0 0) probeAnswered).state = .backoff := by
  refine ⟨rfl,rfl,rfl,rfl,rfl⟩

end Rconn

end OpenFlow
