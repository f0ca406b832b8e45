import Mathlib
import OpenFlow.Dhcp
import OpenFlow.Execute
import OpenFlow.Lib.StepSystem

/-! The DHCP client (lib/dhcp-client.c): struct dhclient and its state machine, the entry points
dhclient_init, dhclient_release, dhclient_force_renew and dhclient_changed, and one pass of dhclient_run's
loop through the handler of the current state. -/
namespace OpenFlow.DhcpClient
open Dhcp StepSystem

/- enum dhclient_state -/
inductive ClientState where
  | init
  | initReboot
  | rebooting
  | selecting
  | requesting
  | bound
  | renewing
  | rebinding
  | released
  deriving DecidableEq, Repr

/- state & (S_BOUND | S_RENEWING | S_REBINDING), dhclient_is_bound -/
def ClientState.isBound : ClientState → Bool
  | .bound | .renewing | .rebinding => true
  | _ => false

/- state & (S_SELECTING | S_REQUESTING | S_REBOOTING): the states entered with the receive queue drained. -/
def ClientState.drains : ClientState → Bool
  | .selecting | .requesting | .rebooting => true
  | _ => false

def uintMax : UInt32 := 0xffffffff
def minAcceptableLease : UInt32 := 15

def dhcpdiscover : UInt8 := 1
def dhcpoffer : UInt8 := 2
def dhcprequest : UInt8 := 3
def dhcpack : UInt8 := 5
def dhcpnak : UInt8 := 6
def dhcprelease : UInt8 := 7

def dhcpCodeSubnetMask : Nat := 1
def dhcpCodeRouter : Nat := 3
def dhcpCodeRequestedIp : Nat := 50
def dhcpCodeLeaseTime : Nat := 51
def dhcpCodeServerIdentifier : Nat := 54
def dhcpCodeT1 : Nat := 58
def dhcpCodeT2 : Nat := 59

/- dhcp_msg_get_secs and dhcp_msg_get_ip: the 32-bit word at `offset` words into the option, in host order or
as stored. -/
def dhcpMsgGetSecs (msg : DhcpMsg) (code offset : Nat) : Option UInt32 :=
  (msg.options code).bind fun data => if 4 * offset + 4 ≤ data.length then some (BigEndian.get32 data (4 * offset)) else none

def dhcpMsgGetIp (msg : DhcpMsg) (code offset : Nat) : Option UInt32 :=
  (msg.options code).bind fun data =>
    if 4 * offset + 4 ≤ data.length then some (LittleEndian.get32 data (4 * offset)) else none

/- dhcp_msg_put_ip: the address as it is stored. -/
def dhcpMsgPutIp (msg : DhcpMsg) (code : Nat) (ip : UInt32) : DhcpMsg := dhcpMsgPut msg code (LittleEndian.ofUInt32 ip)

/- struct dhclient, without the netdev, the hooks (see `Config`) and the status string. -/
structure Dhclient where
  state : ClientState
  stateEntered : UInt32
  xid : UInt32
  ipaddr : UInt32
  netmask : UInt32
  router : UInt32
  serverIp : UInt32
  binding : Option DhcpMsg
  changed : Bool
  retransmit : UInt32
  delay : UInt32
  maxTimeout : UInt32
  initDelay : UInt32
  leaseExpiration : UInt32
  boundTimeout : UInt32
  renewingTimeout : UInt32
  rebindingTimeout : UInt32
  minTimeout : UInt32
  received : Nat
  secs : UInt32

/- The client with what it reads and writes around it: time_now(), the receive queue, the values
random_uint32() returns from the `drawn`-th on, and what it has sent. -/
structure World where
  cli : Dhclient
  now : UInt32
  frames : List (Option DhcpMsg)
  draws : Nat → UInt32
  drawn : Nat
  sent : List DhcpMsg

/- What dhclient_create was given: the two hooks and the device's Ethernet address. -/
structure Config where
  validateOffer : Option (DhcpMsg → Bool)
  modifyRequest : Option (DhcpMsg → DhcpMsg)
  etherAddr : Vector UInt8 6

section Time

/- sat_add -/
def satAdd (x y : UInt32) : UInt32 := if x + y ≥ x then x + y else uintMax

/- sat_sub -/
def satSub (x y : UInt32) : UInt32 := if x ≥ y then x - y else 0

/- random_range(max): random_uint32() % max. -/
def randomRange (w : World) (max : Nat) : World × Nat :=
  ({ w with drawn := w.drawn + 1 },(w.draws w.drawn).toNat % max)

/- fuzz, given the value `r` random_range(max_fuzz * 2 + 1) returned: x moved by r - max_fuzz, saturating at 0
and UINT_MAX. -/
def fuzz (x : UInt32) (maxFuzz r : Nat) : UInt32 :=
  let fuzz : Int := (r : Int) - maxFuzz
  let y := x + UInt32.ofInt fuzz
  if fuzz ≥ 0 then (if y ≥ x then y else uintMax) else (if y ≤ x then y else 0)

def drawFuzz (w : World) (x : UInt32) (maxFuzz : Nat) : World × UInt32 :=
  let drawn := randomRange w (maxFuzz * 2 + 1)
  (drawn.1,fuzz x maxFuzz drawn.2)

def clamp (x min max : UInt32) : UInt32 := if x < min then min else if x > max then max else x

/- calc_t2: lease * 0.875 truncated, fuzzed and clamped below the lease only for leases of a minute or more.
-/
def calcT2 (w : World) (lease : UInt32) : World × UInt32 :=
  let base := (lease.toNat * 7 / 8).toUInt32
  if lease ≥ 60 then
    let fuzzed := drawFuzz w base 10
    (fuzzed.1,clamp fuzzed.2 0 (lease - 1))
  else (w,base)

/- calc_t1: half the lease, fuzzed and clamped below t2 only for leases of a minute or more. -/
def calcT1 (w : World) (lease t2 : UInt32) : World × UInt32 :=
  let base := lease / 2
  if lease ≥ 60 then
    let fuzzed := drawFuzz w base 10
    (fuzzed.1,clamp fuzzed.2 0 (t2 - 1))
  else (w,base)

def elapsedInThisState (w : World) : UInt32 := w.now - w.cli.stateEntered

/- timeout: whether `secs` have passed in this state; the wait is noted in min_timeout. -/
def timeout (w : World) (secs : UInt32) : World × Bool :=
  ({ w with cli := { w.cli with minTimeout := min w.cli.minTimeout secs } },w.now ≥ satAdd w.cli.stateEntered secs)

end Time

section Machine
variable (cfg : Config)

def dhclientIsBound (cli : Dhclient) : Bool := cli.state.isBound

def dhclientGetIp (cli : Dhclient) : UInt32 := if dhclientIsBound cli then cli.ipaddr else 0

/- state_transition: the binding is freed on leaving the bound states and must be there on entering them;
`changed` is set either way. -/
def stateTransition (w : World) (state : ClientState) : Except Halt World := do
  let wasBound := dhclientIsBound w.cli
  let cli := { w.cli with state,stateEntered := w.now,retransmit := 0,delay := 0 }
  let amBound := dhclientIsBound cli
  let cli ←
    if wasBound ≠ amBound then
      if amBound then (if cli.binding.isSome then pure { cli with changed := true } else .error .assertFailed)
      else pure { cli with changed := true,binding := none }
    else pure cli
  pure { w with cli,frames := if cli.state.drains then [] else w.frames }

def dhclientMsgInit (cli : Dhclient) (type : UInt8) : DhcpMsg :=
  { dhcpMsgInit with
    op := dhcpBootrequest
    xid := cli.xid
    secs := cli.secs.toUInt16
    type
    chaddr := cfg.etherAddr }

def makeDhcpdiscover (w : World) : World × DhcpMsg :=
  let w := { w with cli := { w.cli with secs := elapsedInThisState w } }
  let msg := dhclientMsgInit cfg w.cli dhcpdiscover
  (w,if w.cli.ipaddr ≠ 0 then dhcpMsgPutIp msg dhcpCodeRequestedIp w.cli.ipaddr else msg)

def makeDhcprequest (w : World) : World × DhcpMsg :=
  let msg := { dhclientMsgInit cfg w.cli dhcprequest with ciaddr := dhclientGetIp w.cli }
  let msg := if w.cli.state = .requesting then dhcpMsgPutIp msg dhcpCodeServerIdentifier w.cli.serverIp else msg
  (w,dhcpMsgPutIp msg dhcpCodeRequestedIp w.cli.ipaddr)

def doSendMsg (w : World) (msg : DhcpMsg) : World := { w with sent := w.sent ++ [msg] }

/- send_reliably: when the retransmission time has come, send a packet and back off. -/
def sendReliably (w : World) (makePacket : World → World × DhcpMsg) : World :=
  let due := timeout w w.cli.retransmit
  if due.2 then
    let made := makePacket due.1
    let msg := match cfg.modifyRequest with
      | some modify => modify made.2
      | none => made.2
    let w := doSendMsg made.1 msg
    let delay := min w.cli.maxTimeout (max 4 (w.cli.delay * 2))
    let fuzzed := drawFuzz w delay 1
    let w := { fuzzed.1 with cli := { fuzzed.1.cli with delay,retransmit := fuzzed.1.cli.retransmit + fuzzed.2 } }
    (timeout w w.cli.retransmit).1
  else due.1

/- dhcp_receive over do_receive_msg: the first message of a type in `msgs` with the client's xid. -/
def receiveLoop (xid msgs : UInt32) : List (Option DhcpMsg) → Nat → List (Option DhcpMsg) × Nat × Option DhcpMsg
  | [], received => ([],received,none)
  | frame :: frames, received =>
    if received < 50 then
      match frame with
      | none => receiveLoop xid msgs frames (received + 1)
      | some msg =>
        if msg.type.toNat > 31 ∨ ((1 : UInt32) <<< msg.type.toUInt32) &&& msgs = 0 then receiveLoop xid msgs frames received
        else if msg.xid ≠ xid then receiveLoop xid msgs frames received
        else (frames,received,some msg)
    else ([],received,none)

def dhcpReceive (w : World) (msgs : UInt32) : World × Option DhcpMsg :=
  let got := receiveLoop w.cli.xid msgs w.frames w.cli.received
  ({ w with frames := got.1,cli := { w.cli with received := got.2.1 } },got.2.2)

def validateOfferedOptions (msg : DhcpMsg) : Bool :=
  match dhcpMsgGetSecs msg dhcpCodeLeaseTime 0 with
  | none => false
  | some lease =>
    match dhcpMsgGetIp msg dhcpCodeSubnetMask 0 with
    | none => false
    | some _ =>
      if lease < minAcceptableLease then false
      else
        match cfg.validateOffer with
        | some validate => validate msg
        | none => true

/- The codes same_binding compares, besides yiaddr. -/
def sameBindingCodes : List Nat := [1,3,6,12,15,23,26,28,33,35,36,37,54,dhcpVendorOfs + 1,dhcpVendorOfs + 2]

def sameBinding (old new : DhcpMsg) : Bool :=
  old.yiaddr == new.yiaddr && sameBindingCodes.all fun code => old.options code == new.options code

/- t1 and t2 as receive_ack settles them from the lease and the T1 and T2 options (0 when absent). -/
def leaseTimes (w : World) (lease t1 t2 : UInt32) : World × UInt32 × UInt32 :=
  let settled2 := if t2 = 0 ∨ t2 ≥ lease then calcT2 w lease else (w,t2)
  let t2 := settled2.2
  let settled1 := if t1 = 0 ∨ t1 ≥ t2 then calcT1 settled2.1 lease t2 else (settled2.1,t1)
  (settled1.1,settled1.2,t2)

/- receive_ack: a DHCPNAK sends the client back to INIT; a valid DHCPACK becomes the binding and the client is
BOUND. -/
def receiveAck (w : World) : Except Halt (World × Bool) :=
  let got := dhcpReceive w (((1 : UInt32) <<< dhcpack.toUInt32) ||| ((1 : UInt32) <<< dhcpnak.toUInt32))
  let w := got.1
  match got.2 with
  | none => pure (w,false)
  | some msg =>
    if msg.type = dhcpnak then do
      let w ← stateTransition w .init
      pure (w,true)
    else if !validateOfferedOptions cfg msg then pure (w,false)
    else
      let changed :=
        match w.cli.binding with
        | some old => w.cli.changed || !sameBinding old msg
        | none => w.cli.changed
      let lease := (dhcpMsgGetSecs msg dhcpCodeLeaseTime 0).getD 0
      let t1 := (dhcpMsgGetSecs msg dhcpCodeT1 0).getD 0
      let t2 := (dhcpMsgGetSecs msg dhcpCodeT2 0).getD 0
      if lease < minAcceptableLease then .error .assertFailed
      else do
        let times := leaseTimes w lease t1 t2
        let w := times.1
        let cli :=
          { w.cli with
            changed
            binding := some msg
            leaseExpiration := satAdd w.now lease
            boundTimeout := times.2.1
            renewingTimeout := times.2.2 - times.2.1
            rebindingTimeout := lease - times.2.2
            ipaddr := msg.yiaddr
            netmask := (dhcpMsgGetIp msg dhcpCodeSubnetMask 0).getD w.cli.netmask
            router := (dhcpMsgGetIp msg dhcpCodeRouter 0).getD 0 }
        let w ← stateTransition { w with cli } .bound
        pure (w,true)

/- do_init, for INIT and INIT_REBOOT. -/
def doInit (w : World) (nextState : ClientState) : Except Halt World :=
  let w :=
    if w.cli.initDelay = 0 then
      let fuzzed := drawFuzz w 2 1
      { fuzzed.1 with cli := { fuzzed.1.cli with initDelay := fuzzed.2 } }
    else w
  let due := timeout w w.cli.initDelay
  if due.2 then stateTransition due.1 nextState else pure due.1

def dhclientRunInit (w : World) : Except Halt World := doInit w .selecting

def dhclientRunInitReboot (w : World) : Except Halt World := doInit w .rebooting

/- The handlers that send DHCPREQUEST: an answer settles the state; without one, the state is left for
`nextState` after `secs` seconds. -/
def requestAck (w : World) (secs : Dhclient → UInt32) (nextState : ClientState) : Except Halt World := do
  let w := sendReliably cfg w (makeDhcprequest cfg)
  let answered ← receiveAck cfg w
  if answered.2 then pure answered.1
  else
    let due := timeout answered.1 (secs answered.1.cli)
    if due.2 then stateTransition due.1 nextState else pure due.1

def dhclientRunRebooting (w : World) : Except Halt World := requestAck cfg w (fun _ => 60) .init

def dhclientRunRequesting (w : World) : Except Halt World := requestAck cfg w (fun _ => 60) .init

def dhclientRunRenewing (w : World) : Except Halt World := requestAck cfg w Dhclient.renewingTimeout .rebinding

def dhclientRunRebinding (w : World) : Except Halt World := requestAck cfg w Dhclient.rebindingTimeout .init

def dhclientRunBound (w : World) : Except Halt World :=
  let due := timeout w w.cli.boundTimeout
  if due.2 then stateTransition due.1 .renewing else pure due.1

/- The offers loop of dhclient_run_SELECTING: the first valid DHCPOFFER with a server identifier is accepted.
-/
def selectOffer (w : World) : Nat → Except Halt World
  | 0 => match (dhcpReceive w ((1 : UInt32) <<< dhcpoffer.toUInt32)).2 with
    | none => pure (dhcpReceive w ((1 : UInt32) <<< dhcpoffer.toUInt32)).1
    | some _ => .error .outOfFuel
  | fuel + 1 =>
    let got := dhcpReceive w ((1 : UInt32) <<< dhcpoffer.toUInt32)
    match got.2 with
    | none => pure got.1
    | some msg =>
      if !validateOfferedOptions cfg msg then selectOffer got.1 fuel
      else
        match dhcpMsgGetIp msg dhcpCodeServerIdentifier 0 with
        | none => selectOffer got.1 fuel
        | some serverIp =>
          stateTransition { got.1 with cli := { got.1.cli with serverIp,ipaddr := msg.yiaddr } } .requesting

def dhclientRunSelecting (w : World) : Except Halt World := do
  let w := sendReliably cfg w (makeDhcpdiscover cfg)
  let w ←
    if w.cli.serverIp ≠ 0 then
      let due := timeout w 60
      if due.2 then stateTransition { due.1 with cli := { due.1.cli with serverIp := 0 } } .init else pure due.1
    else pure w
  selectOffer cfg w w.frames.length

/- One pass of dhclient_run's loop: the handler of the current state. -/
def dhclientRunOnce (w : World) : Except Halt World :=
  let w := { w with cli := { w.cli with minTimeout := uintMax,received := 0 } }
  match w.cli.state with
  | .init => dhclientRunInit w
  | .initReboot => dhclientRunInitReboot w
  | .rebooting => dhclientRunRebooting cfg w
  | .selecting => dhclientRunSelecting cfg w
  | .requesting => dhclientRunRequesting cfg w
  | .bound => dhclientRunBound w
  | .renewing => dhclientRunRenewing cfg w
  | .rebinding => dhclientRunRebinding cfg w
  | .released => pure w

/- dhclient_run: passes until the state stays the same, at most `fuel`. -/
def dhclientRun (w : World) : Nat → Except Halt World
  | 0 => .error .outOfFuel
  | fuel + 1 => do
    let w' ← dhclientRunOnce cfg w
    if w'.cli.state ≠ w.cli.state then dhclientRun w' fuel else pure w'

def dhclientInit (w : World) (requestedIp : UInt32) : Except Halt World := do
  let w ← stateTransition w (if requestedIp ≠ 0 then .initReboot else .init)
  pure { w with cli := { w.cli with ipaddr := requestedIp,minTimeout := 0,initDelay := 0 } }

def dhclientRelease (w : World) : Except Halt World := do
  let w :=
    if dhclientIsBound w.cli then
      doSendMsg w { dhclientMsgInit cfg w.cli dhcprelease with ciaddr := w.cli.ipaddr }
    else w
  let w ← stateTransition w .released
  pure { w with cli := { w.cli with minTimeout := uintMax } }

/- do_force_renew; `deadline` is a C int, compared with the unsigned time left after conversion. -/
def doForceRenew (w : World) (deadline : Int32) : Except Halt World := do
  let leaseLeft := satSub w.cli.leaseExpiration w.now
  let shortened := leaseLeft ≤ deadline.toUInt32
  if shortened ∧ (w.cli.state = .renewing ∨ w.cli.state = .rebinding) then pure w
  else
    let deadline := if shortened then leaseLeft.toInt32 else deadline
    let w ←
      if w.cli.state = .bound ∨ w.cli.state = .renewing then do
        let w ← stateTransition w .renewing
        pure { w with
          cli := { w.cli with renewingTimeout := (deadline * 3 / 4).toUInt32,rebindingTimeout := (deadline * 1 / 4).toUInt32 } }
      else do
        let w ← stateTransition w .rebinding
        pure { w with cli := { w.cli with rebindingTimeout := deadline.toUInt32 } }
    pure { w with cli := { w.cli with minTimeout := 0 } }

/- dhclient_force_renew: the receive queue is drained first. -/
def dhclientForceRenew (w : World) (deadline : Int32) : Except Halt World :=
  let w := { w with frames := [] }
  match w.cli.state with
  | .bound | .renewing | .rebinding => doForceRenew w deadline
  | .released => dhclientInit w 0
  | _ => pure w

/- dhclient_changed: the flag, which reading clears. -/
def dhclientChanged (w : World) : Bool × World := (w.cli.changed,{ w with cli := { w.cli with changed := false } })

/- dhclient_create, at time `now`, with the random values `draws`. -/
def dhclientCreate (now : UInt32) (draws : Nat → UInt32) : World where
  cli :=
    { state := .released
      stateEntered := now
      xid := draws 0
      ipaddr := 0
      netmask := 0
      router := 0
      serverIp := 0
      binding := none
      changed := true
      retransmit := 0
      delay := 0
      maxTimeout := 64
      initDelay := 0
      leaseExpiration := 0
      boundTimeout := 0
      renewingTimeout := 0
      rebindingTimeout := 0
      minTimeout := 1
      received := 0
      secs := 0 }
  now := now
  frames := []
  draws := draws
  drawn := 1
  sent := []

end Machine

/- What the caller does with a client, and what happens around it: time passing and frames arriving. -/
inductive Event where
  | init (requestedIp : UInt32)
  | release
  | forceRenew (deadline : Int32)
  | run
  | changed
  | tick (now : UInt32)
  | arrive (frame : Option DhcpMsg)

def dhclientStep (cfg : Config) (w : World) : Event → Except Halt World
  | .init requestedIp => dhclientInit w requestedIp
  | .release => dhclientRelease cfg w
  | .forceRenew deadline => dhclientForceRenew w deadline
  | .run => dhclientRunOnce cfg w
  | .changed => pure (dhclientChanged w).2
  | .tick now => pure { w with now }
  | .arrive frame => pure { w with frames := w.frames ++ [frame] }

/- A crash ends a run: later events leave it as it is. -/
def clientStep (cfg : Config) (s : Except Halt World) (e : Event) : Except Halt World := s.bind fun w => dhclientStep cfg w e

section Frame

/- The binding held exactly in the bound states, with the address of the DHCPACK it is. -/
structure Held (w : World) : Prop where
  held : w.cli.binding.isSome = w.cli.state.isBound
  address : ∀ b, w.cli.binding = some b → w.cli.ipaddr = b.yiaddr

/- `changed` is never cleared, and is set when the client goes from bound to unbound or back. -/
structure Flagged (w w' : World) : Prop where
  kept : w.cli.changed = true → w'.cli.changed = true
  flipped : w.cli.state.isBound ≠ w'.cli.state.isBound → w'.cli.changed = true

/- A change that leaves the state, the binding, the address and the flag as they were. -/
structure Quiet (w w' : World) : Prop where
  state : w'.cli.state = w.cli.state
  binding : w'.cli.binding = w.cli.binding
  ipaddr : w'.cli.ipaddr = w.cli.ipaddr
  changed : w'.cli.changed = w.cli.changed

theorem Flagged.trans {w₁ w₂ w₃ : World} (first : Flagged w₁ w₂) (second : Flagged w₂ w₃) : Flagged w₁ w₃ where
  kept := fun set => second.kept (first.kept set)
  flipped := fun differ => by
    by_cases middle : w₁.cli.state.isBound = w₂.cli.state.isBound
    · exact second.flipped (middle ▸ differ)
    · exact second.kept (first.flipped middle)

theorem Flagged.ofState {w w' : World} (state : w'.cli.state = w.cli.state)
    (kept : w.cli.changed = true → w'.cli.changed = true) : Flagged w w' where
  kept := kept
  flipped := fun differ => absurd (by rw [state]) differ

theorem Quiet.refl (w : World) : Quiet w w := ⟨rfl,rfl,rfl,rfl⟩

theorem Quiet.trans {w₁ w₂ w₃ : World} (first : Quiet w₁ w₂) (second : Quiet w₂ w₃) : Quiet w₁ w₃ :=
  ⟨second.state.trans first.state,second.binding.trans first.binding,second.ipaddr.trans first.ipaddr,
    second.changed.trans first.changed⟩

theorem Quiet.flagged {w w' : World} (quiet : Quiet w w') : Flagged w w' :=
  Flagged.ofState quiet.state fun set => quiet.changed ▸ set

theorem Quiet.held {w w' : World} (quiet : Quiet w w') (held : Held w) : Held w' where
  held := by rw [quiet.binding,quiet.state]; exact held.held
  address := fun b bound => by rw [quiet.ipaddr]; exact held.address b (quiet.binding ▸ bound)

theorem Held.unbound {w : World} (held : Held w) (unbound : w.cli.state.isBound = false) : w.cli.binding = none := by
  rw [← Option.not_isSome_iff_eq_none,held.held,unbound]
  simp

theorem heldUnbound {w : World} (unbound : w.cli.state.isBound = false) (none : w.cli.binding = none) : Held w where
  held := by rw [none,unbound]; rfl
  address := fun b bound => by simp [none] at bound

/- A handler's result from `w`: it did not crash, the binding is held and the flag was kept. -/
def Keeps (w : World) (r : Except Halt World) : Prop := ∃ w', r = .ok w' ∧ Held w' ∧ Flagged w w'

theorem Keeps.ofQuiet {w w' : World} (held : Held w) (quiet : Quiet w w') : Keeps w (.ok w') :=
  ⟨w',rfl,quiet.held held,quiet.flagged⟩

theorem Keeps.before {w w₁ : World} {r : Except Halt World} (flagged : Flagged w w₁) (rest : Keeps w₁ r) : Keeps w r := by
  obtain ⟨w₂,done,held₂,flagged₂⟩ := rest
  exact ⟨w₂,done,held₂,flagged.trans flagged₂⟩

theorem timeoutQuiet (w : World) (secs : UInt32) : Quiet w (timeout w secs).1 := ⟨rfl,rfl,rfl,rfl⟩

theorem dhcpReceiveQuiet (w : World) (msgs : UInt32) : Quiet w (dhcpReceive w msgs).1 := ⟨rfl,rfl,rfl,rfl⟩

theorem sendReliablyQuiet (cfg : Config) (w : World) {makePacket : World → World × DhcpMsg}
    (made : ∀ w, Quiet w (makePacket w).1) : Quiet w (sendReliably cfg w makePacket) := by
  unfold sendReliably
  dsimp only
  split
  · -- only the packet maker could touch the fields, and it does not
    have making := made (timeout w w.cli.retransmit).1
    exact ⟨making.state,making.binding,making.ipaddr,making.changed⟩
  · exact timeoutQuiet w _

theorem makeDhcpdiscoverQuiet (cfg : Config) (w : World) : Quiet w (makeDhcpdiscover cfg w).1 := ⟨rfl,rfl,rfl,rfl⟩

theorem makeDhcprequestQuiet (cfg : Config) (w : World) : Quiet w (makeDhcprequest cfg w).1 := ⟨rfl,rfl,rfl,rfl⟩

theorem calcT2Quiet (w : World) (lease : UInt32) : Quiet w (calcT2 w lease).1 := by
  unfold calcT2
  split <;> exact ⟨rfl,rfl,rfl,rfl⟩

theorem calcT1Quiet (w : World) (lease t2 : UInt32) : Quiet w (calcT1 w lease t2).1 := by
  unfold calcT1
  split <;> exact ⟨rfl,rfl,rfl,rfl⟩

theorem leaseTimesQuiet (w : World) (lease t1 t2 : UInt32) : Quiet w (leaseTimes w lease t1 t2).1 := by
  unfold leaseTimes
  dsimp only
  have second : Quiet w (if t2 = 0 ∨ t2 ≥ lease then calcT2 w lease else (w,t2)).1 := by
    split
    · exact calcT2Quiet w lease
    · exact ⟨rfl,rfl,rfl,rfl⟩
  generalize (if t2 = 0 ∨ t2 ≥ lease then calcT2 w lease else (w,t2)) = settled at second ⊢
  split
  · exact second.trans (calcT1Quiet _ _ _)
  · exact second

end Frame

section Transition
variable {w w' : World} {state : ClientState}

theorem stateTransitionEq (moved : stateTransition w state = .ok w') :
    w' = { w with
      cli := { w.cli with
        state
        stateEntered := w.now
        retransmit := 0
        delay := 0
        changed := w.cli.changed || w.cli.state.isBound != state.isBound
        binding := if w.cli.state.isBound && !state.isBound then none else w.cli.binding }
      frames := if state.drains then [] else w.frames } := by
  unfold stateTransition dhclientIsBound at moved
  simp only [bind,Except.bind,pure,Except.pure] at moved
  cases was : w.cli.state.isBound <;> cases now : state.isBound <;>
    simp only [was,now,ne_eq,not_true_eq_false,not_false_eq_true,Bool.false_eq_true,if_true,if_false] at moved
  · cases moved
    simp
  · -- entering a bound state: the binding must be there
    by_cases has : w.cli.binding.isSome = true
    · simp only [has,if_true] at moved
      cases moved
      simp
    · simp only [has,if_false,Bool.false_eq_true] at moved
      cases moved
  · -- leaving the bound states: the binding is freed
    cases moved
    simp
  · cases moved
    simp

theorem stateTransitionSpec (moved : stateTransition w state = .ok w') :
    w'.cli.state = state ∧ w'.cli.changed = (w.cli.changed || w.cli.state.isBound != state.isBound) ∧
      w'.cli.binding = (if w.cli.state.isBound && !state.isBound then none else w.cli.binding) ∧
      w'.cli.ipaddr = w.cli.ipaddr := by
  rw [stateTransitionEq moved]
  exact ⟨rfl,rfl,rfl,rfl⟩

theorem stateTransitionOk (guard : w.cli.state.isBound = false → state.isBound = true → w.cli.binding.isSome = true) :
    ∃ w', stateTransition w state = .ok w' := by
  unfold stateTransition dhclientIsBound
  simp only [bind,Except.bind,pure,Except.pure]
  cases was : w.cli.state.isBound <;> cases now : state.isBound <;> simp
  simp [guard was now]

theorem stateTransitionOkEq (guard : w.cli.state.isBound = false → state.isBound = true → w.cli.binding.isSome = true) :
    stateTransition w state = .ok { w with
      cli := { w.cli with
        state
        stateEntered := w.now
        retransmit := 0
        delay := 0
        changed := w.cli.changed || w.cli.state.isBound != state.isBound
        binding := if w.cli.state.isBound && !state.isBound then none else w.cli.binding }
      frames := if state.drains then [] else w.frames } := by
  obtain ⟨w',moved⟩ := stateTransitionOk guard
  rw [moved,stateTransitionEq moved]

theorem stateTransitionFlagged (moved : stateTransition w state = .ok w') : Flagged w w' := by
  obtain ⟨entered,flag,_,_⟩ := stateTransitionSpec moved
  refine ⟨fun set => by simp [flag,set],fun differ => ?_⟩
  rw [entered] at differ
  simp [flag,differ]

theorem transitionHeld (held : Held w) (stays : state.isBound = true → w.cli.state.isBound = true) :
    Keeps w (stateTransition w state) := by
  obtain ⟨w',moved⟩ := @stateTransitionOk w state fun unbound entering => absurd (stays entering) (by simp [unbound])
  obtain ⟨entered,_,binding,ipaddr⟩ := stateTransitionSpec moved
  refine ⟨w',moved,⟨?_,fun b bound => ?_⟩,stateTransitionFlagged moved⟩
  · rw [binding,entered]
    cases was : w.cli.state.isBound <;> cases now : state.isBound
    · simp [held.held,was]
    · simp [stays now] at was
    · simp
    · simp [held.held,was]
  · rw [ipaddr]
    refine held.address b ?_
    rw [binding] at bound
    split at bound
    · cases bound
    · exact bound

theorem transitionBinds {msg : DhcpMsg} (binding : w.cli.binding = some msg) (ipaddr : w.cli.ipaddr = msg.yiaddr) :
    Keeps w (stateTransition w .bound) := by
  obtain ⟨w',moved⟩ := @stateTransitionOk w .bound fun _ _ => by simp [binding]
  obtain ⟨entered,_,binding',ipaddr'⟩ := stateTransitionSpec moved
  have kept : w'.cli.binding = some msg := by simp [binding',binding,ClientState.isBound]
  refine ⟨w',moved,⟨by simp [kept,entered,ClientState.isBound],fun b bound => ?_⟩,stateTransitionFlagged moved⟩
  rw [kept] at bound
  cases bound
  rw [ipaddr',ipaddr]

end Transition

section Handlers
variable (cfg : Config) {w : World}

theorem validLease {msg : DhcpMsg} (valid : validateOfferedOptions cfg msg = true) :
    ∃ lease, dhcpMsgGetSecs msg dhcpCodeLeaseTime 0 = some lease ∧ ¬ lease < minAcceptableLease := by
  unfold validateOfferedOptions at valid
  split at valid
  · cases valid
  · rename_i lease leased
    refine ⟨lease,leased,fun short => ?_⟩
    split at valid
    · cases valid
    · simp [short] at valid

theorem answeredSpec {r : Except Halt World} (keeps : Keeps w r) :
    ∃ a, (r >>= fun w => pure (w,true)) = .ok a ∧ Held a.1 ∧ Flagged w a.1 ∧ (a.2 = false → Quiet w a.1) := by
  obtain ⟨w',rfl,held',flagged'⟩ := keeps
  exact ⟨(w',true),rfl,held',flagged',fun answered => by cases answered⟩

theorem receiveAckSpec (held : Held w) :
    ∃ r, receiveAck cfg w = .ok r ∧ Held r.1 ∧ Flagged w r.1 ∧ (r.2 = false → Quiet w r.1) := by
  unfold receiveAck
  have got := dhcpReceiveQuiet w (((1 : UInt32) <<< dhcpack.toUInt32) ||| ((1 : UInt32) <<< dhcpnak.toUInt32))
  generalize dhcpReceive w _ = received at got ⊢
  obtain ⟨w₁,msg⟩ := received
  dsimp only at got
  have held₁ := got.held held
  cases msg with
  | none => exact ⟨(w₁,false),rfl,held₁,got.flagged,fun _ => got⟩
  | some msg =>
    dsimp only
    by_cases nak : msg.type = dhcpnak
    · -- a DHCPNAK sends the client back to INIT, which frees the binding
      simp only [nak,if_true]
      exact answeredSpec ((@transitionHeld w₁ .init held₁ (by simp [ClientState.isBound])).before got.flagged)
    by_cases valid : validateOfferedOptions cfg msg = true
    swap
    · simp only [nak,valid]
      exact ⟨(w₁,false),rfl,held₁,got.flagged,fun _ => got⟩
    obtain ⟨lease,leased,long⟩ := validLease cfg valid
    simp only [nak,valid,leased,long,if_false,Bool.not_true,Bool.false_eq_true,Option.getD_some]
    refine answeredSpec ((transitionBinds rfl rfl).before (got.flagged.trans (Flagged.ofState ?_ fun set => ?_)))
    · exact (leaseTimesQuiet w₁ _ _ _).state
    · cases w₁.cli.binding <;> simp [set]

theorem doInitKeeps (held : Held w) {nextState : ClientState} (unbound : nextState.isBound = false) :
    Keeps w (doInit w nextState) := by
  unfold doInit
  dsimp only
  have drawn : Quiet w (if w.cli.initDelay = 0 then
      { (drawFuzz w 2 1).1 with cli := { (drawFuzz w 2 1).1.cli with initDelay := (drawFuzz w 2 1).2 } } else w) := by
    split <;> exact ⟨rfl,rfl,rfl,rfl⟩
  generalize (if w.cli.initDelay = 0 then _ else w) = w₁ at drawn ⊢
  have waited := drawn.trans (timeoutQuiet w₁ w₁.cli.initDelay)
  split
  · exact (transitionHeld (waited.held held) (by simp [unbound])).before waited.flagged
  · exact Keeps.ofQuiet held waited

theorem requestAckKeeps (held : Held w) (secs : Dhclient → UInt32) {nextState : ClientState}
    (stays : nextState.isBound = true → w.cli.state.isBound = true) : Keeps w (requestAck cfg w secs nextState) := by
  unfold requestAck
  have sent := sendReliablyQuiet cfg w (makeDhcprequestQuiet cfg)
  obtain ⟨r,acked,held₁,flagged₁,quiet₁⟩ := receiveAckSpec cfg (sent.held held)
  simp only [acked,bind,Except.bind]
  split
  · exact ⟨r.1,rfl,held₁,sent.flagged.trans flagged₁⟩
  · rename_i unanswered
    have quiet := sent.trans (quiet₁ (by simpa using unanswered))
    have waited := quiet.trans (timeoutQuiet r.1 (secs r.1.cli))
    split
    · exact (transitionHeld (waited.held held) fun entering => waited.state ▸ stays entering).before waited.flagged
    · exact Keeps.ofQuiet held waited

theorem runBoundKeeps (held : Held w) (bound : w.cli.state = .bound) : Keeps w (dhclientRunBound w) := by
  unfold dhclientRunBound
  dsimp only
  have waited := timeoutQuiet w w.cli.boundTimeout
  split
  · exact (transitionHeld (waited.held held) fun _ => by simp [waited.state,bound,ClientState.isBound]).before
      waited.flagged
  · exact Keeps.ofQuiet held waited

theorem receiveLoopFound (xid msgs : UInt32) (frames : List (Option DhcpMsg)) (received : Nat)
    (found : (receiveLoop xid msgs frames received).2.2.isSome) : (receiveLoop xid msgs frames received).1.length < frames.length := by
  fun_induction receiveLoop xid msgs frames received with
  | case1 => cases found
  | case2 frames _ _ ih => exact (ih found).trans (by simp)
  | case3 frames _ _ _ _ ih => exact (ih found).trans (by simp)
  | case4 frames _ _ _ _ _ ih => exact (ih found).trans (by simp)
  | case5 frames => simp
  | case6 => cases found

theorem dhcpReceiveFound (msgs : UInt32) (found : (dhcpReceive w msgs).2.isSome) :
    (dhcpReceive w msgs).1.frames.length < w.frames.length :=
  receiveLoopFound _ _ _ _ found

theorem selectOfferKeeps : ∀ (fuel : Nat) (w : World), Held w → w.cli.state.isBound = false → w.frames.length ≤ fuel →
    Keeps w (selectOffer cfg w fuel)
  | 0, w, held, _, enough => by
    have empty : w.frames = [] := List.eq_nil_of_length_eq_zero (by omega)
    unfold selectOffer dhcpReceive
    simp only [empty,receiveLoop]
    exact Keeps.ofQuiet held ⟨rfl,rfl,rfl,rfl⟩
  | fuel + 1, w, held, unbound, enough => by
    unfold selectOffer
    have got := dhcpReceiveQuiet w ((1 : UInt32) <<< dhcpoffer.toUInt32)
    have shorter := @dhcpReceiveFound w ((1 : UInt32) <<< dhcpoffer.toUInt32)
    generalize dhcpReceive w _ = received at got shorter ⊢
    obtain ⟨w₁,msg⟩ := received
    dsimp only at got shorter ⊢
    have held₁ := got.held held
    have unbound₁ : w₁.cli.state.isBound = false := by rw [got.state,unbound]
    cases msg with
    | none => exact Keeps.ofQuiet held got
    | some msg =>
      have rest : w₁.frames.length ≤ fuel := by
        have := shorter rfl
        omega
      dsimp only
      split
      · exact (selectOfferKeeps fuel w₁ held₁ unbound₁ rest).before got.flagged
      split
      · exact (selectOfferKeeps fuel w₁ held₁ unbound₁ rest).before got.flagged
      · -- the offer is taken: its address while unbound, then REQUESTING
        refine Keeps.before ?_ (transitionHeld (heldUnbound ?_ ?_) ?_)
        · exact got.flagged.trans (Flagged.ofState rfl id)
        · exact unbound₁
        · exact held₁.unbound unbound₁
        · simp [ClientState.isBound]

theorem runSelectingKeeps (held : Held w) (unbound : w.cli.state.isBound = false) :
    Keeps w (dhclientRunSelecting cfg w) := by
  unfold dhclientRunSelecting
  have sent := sendReliablyQuiet cfg w (makeDhcpdiscoverQuiet cfg)
  generalize sendReliably cfg w (makeDhcpdiscover cfg) = w₁ at sent ⊢
  have held₁ := sent.held held
  have unbound₁ : w₁.cli.state.isBound = false := by rw [sent.state,unbound]
  dsimp only
  split
  · split
    · let forgot : World := { (timeout w₁ 60).1 with cli := { (timeout w₁ 60).1.cli with serverIp := 0 } }
      have quiet : Quiet w₁ forgot := ⟨rfl,rfl,rfl,rfl⟩
      obtain ⟨w₂,moved,held₂,flagged₂⟩ := @transitionHeld forgot .init (quiet.held held₁) (by simp [ClientState.isBound])
      have unbound₂ : w₂.cli.state.isBound = false := by rw [(stateTransitionSpec moved).1]; rfl
      rw [moved]
      exact (selectOfferKeeps cfg _ w₂ held₂ unbound₂ le_rfl).before (sent.flagged.trans (quiet.flagged.trans flagged₂))
    · have waited := timeoutQuiet w₁ 60
      exact (selectOfferKeeps cfg _ _ (waited.held held₁) (by rw [waited.state,unbound₁]) le_rfl).before
        (sent.flagged.trans waited.flagged)
  · exact (selectOfferKeeps cfg _ w₁ held₁ unbound₁ le_rfl).before sent.flagged

theorem runOnceKeeps (held : Held w) : Keeps w (dhclientRunOnce cfg w) := by
  unfold dhclientRunOnce
  have reset : Quiet w { w with cli := { w.cli with minTimeout := uintMax,received := 0 } } := ⟨rfl,rfl,rfl,rfl⟩
  have held₀ := reset.held held
  refine Keeps.before reset.flagged ?_
  dsimp only
  split <;> rename_i current
  · exact doInitKeeps held₀ rfl
  · exact doInitKeeps held₀ rfl
  · exact requestAckKeeps cfg held₀ _ (by simp [ClientState.isBound])
  · exact runSelectingKeeps cfg held₀ (by simp [current,ClientState.isBound])
  · exact requestAckKeeps cfg held₀ _ (by simp [ClientState.isBound])
  · exact runBoundKeeps held₀ current
  · exact requestAckKeeps cfg held₀ _ fun _ => by simp [current,ClientState.isBound]
  · exact requestAckKeeps cfg held₀ _ (by simp [ClientState.isBound])
  · exact Keeps.ofQuiet held₀ (Quiet.refl _)

theorem initKeeps (held : Held w) (requestedIp : UInt32) : Keeps w (dhclientInit w requestedIp) := by
  unfold dhclientInit
  have leaving : (if requestedIp ≠ 0 then ClientState.initReboot else .init).isBound = false := by split <;> rfl
  obtain ⟨w₁,moved,held₁,flagged₁⟩ := @transitionHeld w _ held fun entering => by
    rw [leaving] at entering
    cases entering
  have unbound : w₁.cli.state.isBound = false := by rw [(stateTransitionSpec moved).1,leaving]
  rw [moved]
  refine ⟨_,rfl,heldUnbound ?_ ?_,flagged₁.trans (Flagged.ofState rfl id)⟩
  · exact unbound
  · exact held₁.unbound unbound

theorem releaseKeeps (held : Held w) : Keeps w (dhclientRelease cfg w) := by
  unfold dhclientRelease
  have sent : Quiet w (if dhclientIsBound w.cli then
      doSendMsg w { dhclientMsgInit cfg w.cli dhcprelease with ciaddr := w.cli.ipaddr } else w) := by
    split <;> exact ⟨rfl,rfl,rfl,rfl⟩
  generalize (if dhclientIsBound w.cli then _ else w) = w₁ at sent ⊢
  obtain ⟨w₂,moved,held₂,flagged₂⟩ := @transitionHeld w₁ .released (sent.held held) (by simp [ClientState.isBound])
  dsimp only
  rw [moved]
  refine (Keeps.ofQuiet held₂ ?_).before (sent.flagged.trans flagged₂)
  exact ⟨rfl,rfl,rfl,rfl⟩

theorem doForceRenewKeeps (held : Held w) (bound : w.cli.state.isBound = true) (deadline : Int32) :
    Keeps w (doForceRenew w deadline) := by
  unfold doForceRenew
  dsimp only
  split
  · exact Keeps.ofQuiet held (Quiet.refl w)
  split
  · obtain ⟨w₁,moved,held₁,flagged₁⟩ := @transitionHeld w .renewing held fun _ => bound
    rw [moved]
    refine (Keeps.ofQuiet held₁ ?_).before flagged₁
    exact ⟨rfl,rfl,rfl,rfl⟩
  · obtain ⟨w₁,moved,held₁,flagged₁⟩ := @transitionHeld w .rebinding held fun _ => bound
    rw [moved]
    refine (Keeps.ofQuiet held₁ ?_).before flagged₁
    exact ⟨rfl,rfl,rfl,rfl⟩

theorem forceRenewKeeps (held : Held w) (deadline : Int32) : Keeps w (dhclientForceRenew w deadline) := by
  unfold dhclientForceRenew
  have drained : Quiet w { w with frames := [] } := ⟨rfl,rfl,rfl,rfl⟩
  refine Keeps.before drained.flagged ?_
  have held₀ := drained.held held
  dsimp only
  split <;> rename_i current
  · exact doForceRenewKeeps held₀ (by simp [current,ClientState.isBound]) deadline
  · exact doForceRenewKeeps held₀ (by simp [current,ClientState.isBound]) deadline
  · exact doForceRenewKeeps held₀ (by simp [current,ClientState.isBound]) deadline
  · exact initKeeps held₀ 0
  · exact Keeps.ofQuiet held₀ (Quiet.refl _)

theorem changedHeld (held : Held w) : Held (dhclientChanged w).2 := ⟨held.held,held.address⟩

theorem createHeld (now : UInt32) (draws : Nat → UInt32) : Held (dhclientCreate now draws) :=
  heldUnbound rfl rfl

theorem stepKeeps (held : Held w) (e : Event) (notRead : e ≠ .changed) : Keeps w (dhclientStep cfg w e) := by
  cases e with
  | init requestedIp => exact initKeeps held requestedIp
  | release => exact releaseKeeps cfg held
  | forceRenew deadline => exact forceRenewKeeps held deadline
  | run => exact runOnceKeeps cfg held
  | changed => exact absurd rfl notRead
  | tick now => exact Keeps.ofQuiet held ⟨rfl,rfl,rfl,rfl⟩
  | arrive frame => exact Keeps.ofQuiet held ⟨rfl,rfl,rfl,rfl⟩

theorem stepHeld (held : Held w) (e : Event) : ∃ w', dhclientStep cfg w e = .ok w' ∧ Held w' := by
  by_cases read : e = .changed
  · subst read
    exact ⟨_,rfl,changedHeld held⟩
  · obtain ⟨w',stepped,held',_⟩ := stepKeeps cfg held e read
    exact ⟨w',stepped,held'⟩

theorem reachableHeld {now : UInt32} {draws : Nat → UInt32} {s : Except Halt World}
    (reach : Reachable (clientStep cfg) (.ok (dhclientCreate now draws)) s) : ∃ w, s = .ok w ∧ Held w := by
  refine @Reachable.invariant _ _ _ _ (fun s => ∃ w, s = .ok w ∧ Held w) ?_ ?_ _ reach
  · exact ⟨_,rfl,createHeld now draws⟩
  · rintro s e ⟨w,rfl,held⟩
    exact stepHeld cfg held e

end Handlers

/- Throughout every run of the client, whatever arrives and whenever: it never crashes, the binding is there
exactly in BOUND, RENEWING and REBINDING, with the DHCPACK's address, and the flag dhclient_changed reads is
set by every move between bound and unbound and stays set until read. -/
theorem dhclientBindingHeld (cfg : Config) (now : UInt32) (draws : Nat → UInt32) (s : Except Halt World)
    (reach : Reachable (clientStep cfg) (.ok (dhclientCreate now draws)) s) :
    ∃ w, s = .ok w ∧ w.cli.binding.isSome = dhclientIsBound w.cli ∧
      (dhclientIsBound w.cli = true → ∃ ack, w.cli.binding = some ack ∧ w.cli.ipaddr = ack.yiaddr) ∧
      ∀ e, e ≠ .changed → ∃ w', dhclientStep cfg w e = .ok w' ∧
        ((dhclientChanged w).1 = true → (dhclientChanged w').1 = true) ∧
        (dhclientIsBound w.cli ≠ dhclientIsBound w'.cli → (dhclientChanged w').1 = true) := by
  obtain ⟨w,rfl,held⟩ := reachableHeld cfg reach
  refine ⟨w,rfl,held.held,fun bound => ?_,fun e notRead => ?_⟩
  · obtain ⟨ack,stored⟩ := Option.isSome_iff_exists.mp (held.held.trans bound)
    exact ⟨ack,stored,held.address ack stored⟩
  · obtain ⟨w',stepped,_,flagged⟩ := stepKeeps cfg held e notRead
    exact ⟨w',stepped,flagged.kept,flagged.flipped⟩

/- A client made without hooks. -/
def plainConfig : Config := ⟨none,none,Vector.replicate 6 0⟩

theorem initRunHeld :
    ∃ w, run (clientStep plainConfig) (.ok (dhclientCreate 0 fun _ => 0)) [.init 0,.run] = .ok w ∧
      w.cli.binding.isSome = dhclientIsBound w.cli ∧
      (dhclientIsBound w.cli = true → ∃ ack, w.cli.binding = some ack ∧ w.cli.ipaddr = ack.yiaddr) ∧
      ∀ e, e ≠ .changed → ∃ w', dhclientStep plainConfig w e = .ok w' ∧
        ((dhclientChanged w).1 = true → (dhclientChanged w').1 = true) ∧
        (dhclientIsBound w.cli ≠ dhclientIsBound w'.cli → (dhclientChanged w').1 = true) :=
  dhclientBindingHeld plainConfig 0 (fun _ => 0) _ (reachableRun _ _ _)

section Timers
variable (cfg : Config) {w w₁ : World} {msg : DhcpMsg}

theorem leaseTimesShort (w : World) {lease t2 : UInt32} (short : lease < 60) (given : t2 ≠ 0) (below : t2 < lease) :
    (leaseTimes w lease 0 t2).2 = (lease / 2,t2) := by
  have kept : ¬ (t2 = 0 ∨ t2 ≥ lease) := by
    refine not_or.mpr ⟨given,?_⟩
    simp only [ge_iff_le,UInt32.le_iff_toNat_le,UInt32.lt_iff_toNat_lt] at below ⊢
    omega
  have unfuzzed : ¬ lease ≥ 60 := by
    simp only [ge_iff_le,UInt32.le_iff_toNat_le,UInt32.lt_iff_toNat_lt,UInt32.reduceToNat] at short ⊢
    omega
  simp [leaseTimes,calcT1,kept,unfuzzed]

/- receive_ack binds a DHCPACK with a lease under a minute, a T2 under half the lease and no T1 with T1 after
T2: renewing_timeout = t2 - t1 wraps around to more than the whole lease. -/
theorem shortLeaseRenewingWraps
    (received : dhcpReceive w (((1 : UInt32) <<< dhcpack.toUInt32) ||| ((1 : UInt32) <<< dhcpnak.toUInt32)) = (w₁,some msg))
    (acked : msg.type = dhcpack) (valid : validateOfferedOptions cfg msg = true) {lease t2 : UInt32}
    (leased : dhcpMsgGetSecs msg dhcpCodeLeaseTime 0 = some lease) (short : lease < 60)
    (noT1 : dhcpMsgGetSecs msg dhcpCodeT1 0 = none) (givenT2 : dhcpMsgGetSecs msg dhcpCodeT2 0 = some t2)
    (given : t2 ≠ 0) (early : t2 < lease / 2) :
    ∃ r, receiveAck cfg w = .ok r ∧ r.1.cli.state = .bound ∧ t2 < r.1.cli.boundTimeout ∧
      r.1.cli.renewingTimeout = t2 - lease / 2 ∧ lease < r.1.cli.renewingTimeout := by
  have notNak : msg.type ≠ dhcpnak := by rw [acked]; decide
  obtain ⟨lease',leased',long⟩ := validLease cfg valid
  rw [leased,Option.some_inj] at leased'
  subst leased'
  have below : t2 < lease := by
    simp only [UInt32.lt_iff_toNat_lt,UInt32.toNat_div,UInt32.reduceToNat] at early ⊢
    omega
  unfold receiveAck
  dsimp only
  rw [received]
  simp only [notNak,valid,leased,long,noT1,givenT2,if_false,Bool.not_true,Bool.false_eq_true,Option.getD_some,
    Option.getD_none]
  rw [leaseTimesShort w₁ short given below,stateTransitionOkEq]
  · refine ⟨_,rfl,rfl,early,rfl,?_⟩
    show lease < t2 - lease / 2
    simp only [UInt32.lt_iff_toNat_lt,UInt32.toNat_div,UInt32.toNat_sub,UInt32.reduceToNat] at early short ⊢
    omega
  · intro _ _
    rfl

/- A DHCPACK for xid 0 with a 30-second lease, a subnet mask and T2 = 5 s. -/
def shortLeaseAck : DhcpMsg :=
  dhcpMsgPut (dhcpMsgPut (dhcpMsgPut { dhcpMsgInit with type := dhcpack,yiaddr := 0x0200000a } dhcpCodeLeaseTime
    [0,0,0,30]) dhcpCodeSubnetMask [255,255,255,0]) dhcpCodeT2 [0,0,0,5]

theorem shortLeaseAckWraps :
    ∃ r, receiveAck plainConfig { dhclientCreate 0 (fun _ => 0) with frames := [some shortLeaseAck] } = .ok r ∧
      r.1.cli.state = .bound ∧ 5 < r.1.cli.boundTimeout ∧ r.1.cli.renewingTimeout = 5 - 30 / 2 ∧
      30 < r.1.cli.renewingTimeout :=
  shortLeaseRenewingWraps plainConfig rfl rfl (by decide) rfl (by decide) rfl rfl (by decide) (by decide)

end Timers

end OpenFlow.DhcpClient
