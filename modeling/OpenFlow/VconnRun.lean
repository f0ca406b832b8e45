import Mathlib
import OpenFlow.Vconn

/-! Runs of calls on one vconn: vconn_connect, vconn_recv and vconn_send in any order, over any class, from a
vconn as vconn_open or pvconn_accept return it. -/
namespace OpenFlow
open WhileLoop StepSystem
namespace Vconn

/- The calls a user of a vconn makes. -/
inductive Call where
  | connect
  | recv
  | send (msg : Msg)
  deriving DecidableEq, Repr

/- What a call returns: an int, or the message vconn_recv stored. -/
inductive Reply where
  | retval (r : Int)
  | msg (m : Msg)
  deriving DecidableEq, Repr

def Reply.ofRecv : Except Errno Msg → Reply
  | .ok m => .msg m
  | .error e => .retval e.1

/- A vconn_send that returned 0: the class took the message. -/
def acceptedOf : Call × Reply → Option Msg
  | (.send m,.retval r) => if r = 0 then some m else none
  | (.send _,.msg _) => none
  | (.connect,_) => none
  | (.recv,_) => none

/- A vconn_recv that returned a message. -/
def deliveredOf : Call × Reply → Option Msg
  | (.recv,.msg m) => some m
  | (.recv,.retval _) => none
  | (.connect,_) => none
  | (.send _,_) => none

section Calls
variable {κ : Type} (cls : VconnClass κ)

def call (s : Vconn × κ) : Call → Reply × (Vconn × κ)
  | .connect => let r := vconnConnect cls s.1 s.2; (.retval r.1,r.2)
  | .recv => let r := vconnRecv cls s.1 s.2; (Reply.ofRecv r.1,r.2)
  | .send msg => let r := vconnSend cls s.1 s.2 msg; (.retval r.1,r.2)

variable {v : Vconn} (k : κ)

theorem vconnConnectConnected (here : v.state = .connected) : vconnConnect cls v k = (0,v,k) := by
  have first : connectPass cls (v,k) = .inl (0,v,k) := by
    unfold connectPass
    simp only [here]
  have done := vconnConnectPasses cls v k
  rw [passesReturn first] at done
  exact (Option.some.inj done).symm

theorem vconnRecvVconn : (vconnRecv cls v k).2.1 = (vconnConnect cls v k).2.1 := by
  unfold vconnRecv
  dsimp only
  split <;> rfl

theorem vconnSendVconn (msg : Msg) :
    (vconnSend cls v k msg).2.1 =
      if (vconnConnect cls v k).1 = 0 ∧ (cls.send (vconnConnect cls v k).2.2 msg).1 = 0 then
        { (vconnConnect cls v k).2.1 with wire := (vconnConnect cls v k).2.1.wire ++ [msg] }
      else (vconnConnect cls v k).2.1 := by
  unfold vconnSend
  by_cases ready : (vconnConnect cls v k).1 = 0
  · simp [ready,doSendVconn]
  · simp [ready]

theorem vconnSendRetval (msg : Msg) :
    (vconnSend cls v k msg).1 = 0 ↔
      (vconnConnect cls v k).1 = 0 ∧ (cls.send (vconnConnect cls v k).2.2 msg).1 = 0 := by
  unfold vconnSend
  by_cases ready : (vconnConnect cls v k).1 = 0
  · simp [ready,doSendRetval]
  · simp [ready]

theorem vconnRecvMsg {m : Msg} (got : (vconnRecv cls v k).1 = .ok m) :
    (vconnConnect cls v k).1 = 0 ∧ accepts (vconnConnect cls v k).2.1.version m = true := by
  unfold vconnRecv at got
  dsimp only at got
  split at got
  · next ready => exact ⟨ready,doRecvAccepts cls got⟩
  · cases got

theorem callConnected (s : Vconn × κ) (here : s.1.state = .connected) (c : Call) :
    (call cls s c).2.1.state = .connected ∧ (call cls s c).2.1.version = s.1.version := by
  have kept := vconnConnectConnected cls s.2 here
  cases c with
  | connect => simp [call,kept,here]
  | recv => simp [call,vconnRecvVconn,kept,here]
  | send msg =>
    simp only [call,vconnSendVconn,kept]
    split <;> simp [here]

theorem callMinVersion (s : Vconn × κ) (c : Call) : (call cls s c).2.1.minVersion = s.1.minVersion := by
  have same := minVersionSteps (vconnConnectSteps cls s.1 s.2).1
  cases c with
  | connect => exact same
  | recv => simpa [call,vconnRecvVconn] using same
  | send msg =>
    simp only [call,vconnSendVconn]
    split <;> exact same

theorem minVersionRun (s : Vconn × κ) (calls : List Call) : (after (call cls) s calls).1.minVersion = s.1.minVersion := by
  induction calls generalizing s with
  | nil => rfl
  | cons c calls ih => rw [afterCons,ih,callMinVersion]

end Calls

/- A connection looped back to the vconn itself, as a socket pair to itself: send appends to the queue, recv
takes its head or answers EAGAIN, and random_uint32 counts. -/
def loopback : VconnClass (List Msg × UInt32) where
  connect k := (0,k)
  recv k :=
    match k.1 with
    | [] => (.error eagainErr,k)
    | m :: rest => (.ok m,(rest,k.2))
  send k m := (0,(k.1 ++ [m],k.2))
  random k := (k.2,(k.1,k.2 + 1))
  backlog k := k.1.length
  connectSettles _ := show (0 : Int) ≠ 115 by decide
  recvDrains k m k' got := by
    obtain ⟨queue,xid⟩ := k
    cases queue with
    | nil => cases got
    | cons m' rest =>
      cases got
      simp

/- The vconn and the connection after a run of calls from a vconn as vconn_open or pvconn_accept return it,
and the run's calls with their replies. -/
def afterOpen {κ : Type} (cls : VconnClass κ) (status minVersion : Int) (k : κ) (calls : List Call) : Vconn × κ :=
  after (call cls) ({ vconnInit status with minVersion },k) calls

def repliesOpen {κ : Type} (cls : VconnClass κ) (status minVersion : Int) (k : κ) (calls : List Call) :
    List (Call × Reply) :=
  answers (call cls) ({ vconnInit status with minVersion },k) calls

/- What holds after a run of calls on a vconn, with the run's calls and replies `t`: the vconn is sound, its
wire has the shape of its state with the messages vconn_send took, and every message vconn_recv returned came
to a connected vconn, at its version or with a version-free type. -/
structure Life (v : Vconn) (t : List (Call × Reply)) : Prop where
  sound : Sound v
  wire : WireShape v (t.filterMap acceptedOf)
  delivered : ∀ m ∈ t.filterMap deliveredOf, v.state = .connected ∧ accepts v.version m = true

section Run
variable {κ : Type} (cls : VconnClass κ) {s : Vconn × κ} {t : List (Call × Reply)}

theorem Life.before (life : Life s.1 t) (c : Call) :
    ∀ m ∈ t.filterMap deliveredOf, (call cls s c).2.1.state = .connected ∧
      accepts (call cls s c).2.1.version m = true := by
  intro m mem
  obtain ⟨here,ok⟩ := life.delivered m mem
  obtain ⟨stays,same⟩ := callConnected cls s here c
  exact ⟨stays,by rw [same]; exact ok⟩

theorem Life.connect (life : Life s.1 t) : Life (call cls s .connect).2.1 (t ++ [(.connect,(call cls s .connect).1)]) := by
  have before := life.before cls .connect
  refine ⟨(vconnConnectReports cls life.sound s.2).1,?_,?_⟩
  · simpa [call,acceptedOf,List.filterMap_cons] using life.wire.steps (vconnConnectSteps cls s.1 s.2).1
  · simpa [deliveredOf] using before

theorem Life.recv (life : Life s.1 t) : Life (call cls s .recv).2.1 (t ++ [(.recv,(call cls s .recv).1)]) := by
  have before := life.before cls .recv
  have reports := vconnConnectReports cls life.sound s.2
  have after : (call cls s .recv).2.1 = (vconnConnect cls s.1 s.2).2.1 := vconnRecvVconn cls s.2
  refine ⟨after ▸ reports.1,?_,?_⟩
  · rw [after]
    simpa [acceptedOf,List.filterMap_cons] using life.wire.steps (vconnConnectSteps cls s.1 s.2).1
  · cases got : (vconnRecv cls s.1 s.2).1 with
    | error e => simpa [call,got,Reply.ofRecv,deliveredOf] using before
    | ok m =>
      obtain ⟨ready,ok⟩ := vconnRecvMsg cls s.2 got
      have connected := reports.2.1.1 ready
      simp only [call,got,Reply.ofRecv,deliveredOf,List.filterMap_append,List.filterMap_cons,
        List.filterMap_nil,List.mem_append,List.mem_singleton]
      rintro m' (old | rfl)
      · exact before m' old
      · rw [vconnRecvVconn]
        exact ⟨connected,ok⟩

theorem Life.send (life : Life s.1 t) (msg : Msg) :
    Life (call cls s (.send msg)).2.1 (t ++ [(.send msg,(call cls s (.send msg)).1)]) := by
  have before := life.before cls (.send msg)
  have reports := vconnConnectReports cls life.sound s.2
  have shape := life.wire.steps (vconnConnectSteps cls s.1 s.2).1
  refine ⟨?_,?_,by simpa [deliveredOf] using before⟩
  · simp only [call,vconnSendVconn]
    split
    · exact reports.1.congr rfl rfl rfl rfl
    · exact reports.1
  · by_cases taken : (vconnSend cls s.1 s.2 msg).1 = 0
    · -- the class took the message from a connected vconn: it follows the hello and the earlier ones
      have both := (vconnSendRetval cls s.2 msg).1 taken
      have connected := reports.2.1.1 both.1
      simp only [WireShape,connected] at shape
      obtain ⟨xid,wire⟩ := shape
      simp only [call,vconnSendVconn,both,and_self,if_true,acceptedOf,taken,List.filterMap_append,
        List.filterMap_cons,List.filterMap_nil,WireShape,connected]
      exact ⟨xid,by rw [wire]; rfl⟩
    · have refused : ¬ ((vconnConnect cls s.1 s.2).1 = 0 ∧ (cls.send (vconnConnect cls s.1 s.2).2.2 msg).1 = 0) :=
        fun both => taken ((vconnSendRetval cls s.2 msg).2 both)
      simpa [call,vconnSendVconn,refused,acceptedOf,taken] using shape

theorem Life.call (life : Life s.1 t) (c : Call) : Life (call cls s c).2.1 (t ++ [(c,(call cls s c).1)]) := by
  cases c with
  | connect => exact life.connect cls
  | recv => exact life.recv cls
  | send msg => exact life.send cls msg

theorem lifeInit (status : Int) {minVersion : Int} (min : 0 ≤ minVersion) :
    Life { vconnInit status with minVersion } [] := by
  by_cases again : status = eagain
  · exact ⟨soundEarly min rfl (by simp [vconnInit,again,State.rank]),by simp [WireShape,vconnInit,again],by simp⟩
  · by_cases zero : status = 0
    · exact ⟨soundEarly min rfl (by simp [vconnInit,zero,State.rank]),by simp [WireShape,vconnInit,zero],by simp⟩
    · -- a connect that failed at once leaves the vconn DISCONNECTED with that error
      refine ⟨⟨min,fun _ => ⟨zero,again⟩,?_,?_,?_⟩,by simp [WireShape,vconnInit,again,zero],by simp⟩ <;>
        simp [vconnInit,again,zero,State.rank]

theorem lifeRun (status : Int) {minVersion : Int} (min : 0 ≤ minVersion) (k : κ) (calls : List Call) :
    Life (afterOpen cls status minVersion k calls).1 (repliesOpen cls status minVersion k calls) :=
  @answersInvariant _ _ _ (call cls) (fun s t => Life s.1 t) (fun _ _ c life => life.call cls c) _
    (lifeInit status min) calls

/- After any run of calls on a vconn that vconn_open or pvconn_accept returned with a min_version of at least
0: vconn_connect returns 0 exactly when the vconn is connected, EAGAIN exactly while the connection is under
way, and otherwise the error the vconn failed with, which is neither; and a connected vconn's version lies
between min_version and OFP_VERSION. -/
theorem connectReportsAfterRun (status : Int) {minVersion : Int} (min : 0 ≤ minVersion) (k : κ) (calls : List Call) :
    Reports (vconnConnect cls (afterOpen cls status minVersion k calls).1 (afterOpen cls status minVersion k calls).2).1
      (vconnConnect cls (afterOpen cls status minVersion k calls).1 (afterOpen cls status minVersion k calls).2).2.1 ∧
      ((afterOpen cls status minVersion k calls).1.state = .connected →
        minVersion ≤ (afterOpen cls status minVersion k calls).1.version ∧
          (afterOpen cls status minVersion k calls).1.version ≤ ofpVersion.toNat) := by
  have sound := (lifeRun cls status min k calls).sound
  have same := minVersionRun cls ({ vconnInit status with minVersion },k) calls
  refine ⟨(vconnConnectReports cls sound _).2,fun here => ?_⟩
  have bounds := sound.negotiated here
  rw [afterOpen,same] at bounds
  exact bounds

theorem connectReportsLoopback :
    0 ≤ (1 : Int) ∧
      Reports (vconnConnect loopback (afterOpen loopback 0 1 ([],0) [.connect]).1
          (afterOpen loopback 0 1 ([],0) [.connect]).2).1
        (vconnConnect loopback (afterOpen loopback 0 1 ([],0) [.connect]).1
          (afterOpen loopback 0 1 ([],0) [.connect]).2).2.1 ∧
        ((afterOpen loopback 0 1 ([],0) [.connect]).1.state = .connected →
          1 ≤ (afterOpen loopback 0 1 ([],0) [.connect]).1.version ∧
            (afterOpen loopback 0 1 ([],0) [.connect]).1.version ≤ ofpVersion.toNat) :=
  ⟨by decide,connectReportsAfterRun loopback 0 (by decide) ([],0) [.connect]⟩

/- After any run on such a vconn, the class has taken nothing, or the vconn's OFPT_HELLO followed by exactly
the messages of the vconn_send calls that returned 0, or the hello and the OFPT_ERROR of a failed negotiation;
and no vconn_send has returned 0 unless the vconn is connected. -/
theorem helloFirst (status : Int) {minVersion : Int} (min : 0 ≤ minVersion) (k : κ) (calls : List Call) :
    ((afterOpen cls status minVersion k calls).1.wire = [] ∨
      ∃ xid, (afterOpen cls status minVersion k calls).1.wire =
          makeHello xid :: (repliesOpen cls status minVersion k calls).filterMap acceptedOf ∨
        ∃ xid', (afterOpen cls status minVersion k calls).1.wire =
          [makeHello xid,makeHelloFailed xid' minVersion (afterOpen cls status minVersion k calls).1.version]) ∧
      ((repliesOpen cls status minVersion k calls).filterMap acceptedOf ≠ [] →
        (afterOpen cls status minVersion k calls).1.state = .connected) := by
  have shape := (lifeRun cls status min k calls).wire
  have same := minVersionRun cls ({ vconnInit status with minVersion },k) calls
  rw [← afterOpen] at same
  cases here : (afterOpen cls status minVersion k calls).1.state <;> simp only [WireShape,here] at shape
  · exact ⟨.inl shape.1,fun taken => absurd shape.2 taken⟩
  · exact ⟨.inl shape.1,fun taken => absurd shape.2 taken⟩
  · obtain ⟨⟨xid,wire⟩,none⟩ := shape
    exact ⟨.inr ⟨xid,.inl (by rw [wire,none])⟩,fun taken => absurd none taken⟩
  · obtain ⟨xid,wire⟩ := shape
    exact ⟨.inr ⟨xid,.inl wire⟩,fun _ => rfl⟩
  · obtain ⟨⟨xid,wire⟩,none⟩ := shape
    exact ⟨.inr ⟨xid,.inl (by rw [wire,none])⟩,fun taken => absurd none taken⟩
  · obtain ⟨none,empty | ⟨xid,wire⟩ | ⟨xid,xid',wire⟩⟩ := shape
    · exact ⟨.inl empty,fun taken => absurd none taken⟩
    · exact ⟨.inr ⟨xid,.inl (by rw [wire,none])⟩,fun taken => absurd none taken⟩
    · exact ⟨.inr ⟨xid,.inr ⟨xid',by rw [wire,same]⟩⟩,fun taken => absurd none taken⟩

theorem helloFirstLoopback :
    0 ≤ (1 : Int) ∧
      ((afterOpen loopback 0 1 ([],0) [.connect,.send (makeHello 9)]).1.wire = [] ∨
        ∃ xid, (afterOpen loopback 0 1 ([],0) [.connect,.send (makeHello 9)]).1.wire =
            makeHello xid :: (repliesOpen loopback 0 1 ([],0) [.connect,.send (makeHello 9)]).filterMap acceptedOf ∨
          ∃ xid', (afterOpen loopback 0 1 ([],0) [.connect,.send (makeHello 9)]).1.wire =
            [makeHello xid,makeHelloFailed xid' 1 (afterOpen loopback 0 1 ([],0) [.connect,.send (makeHello 9)]).1.version]) ∧
        ((repliesOpen loopback 0 1 ([],0) [.connect,.send (makeHello 9)]).filterMap acceptedOf ≠ [] →
          (afterOpen loopback 0 1 ([],0) [.connect,.send (makeHello 9)]).1.state = .connected) :=
  ⟨by decide,helloFirst loopback 0 (by decide) ([],0) [.connect,.send (makeHello 9)]⟩

/- After any run on such a vconn, every message vconn_recv returned came to a connected vconn, and has the
vconn's negotiated version or a version-free type. -/
theorem deliveredAccepted (status : Int) {minVersion : Int} (min : 0 ≤ minVersion) (k : κ) (calls : List Call) :
    ∀ m ∈ (repliesOpen cls status minVersion k calls).filterMap deliveredOf,
      (afterOpen cls status minVersion k calls).1.state = .connected ∧
        accepts (afterOpen cls status minVersion k calls).1.version m = true :=
  (lifeRun cls status min k calls).delivered

/- The loopback reads back its own hello, then the echo request it was sent. -/
theorem deliveredAcceptedLoopback :
    0 ≤ (1 : Int) ∧
      ∀ m ∈ (repliesOpen loopback 0 1 ([],0) [.connect,.send ⟨1,ofptEchoRequest,5,[]⟩,.recv]).filterMap deliveredOf,
        (afterOpen loopback 0 1 ([],0) [.connect,.send ⟨1,ofptEchoRequest,5,[]⟩,.recv]).1.state = .connected ∧
          accepts (afterOpen loopback 0 1 ([],0) [.connect,.send ⟨1,ofptEchoRequest,5,[]⟩,.recv]).1.version m = true :=
  ⟨by decide,deliveredAccepted loopback 0 (by decide) ([],0) [.connect,.send ⟨1,ofptEchoRequest,5,[]⟩,.recv]⟩

/- That run does deliver the echo request. -/
example : (repliesOpen loopback 0 1 ([],0) [.connect,.send ⟨1,ofptEchoRequest,5,[]⟩,.recv]).filterMap deliveredOf =
    [⟨1,ofptEchoRequest,5,[]⟩] := by
  decide

end Run

end Vconn
end OpenFlow
