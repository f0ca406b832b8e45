import Mathlib
import OpenFlow.Execute
import OpenFlow.Datapath
import OpenFlow.Lib.StepSystem

/-! The queue messages of the userspace datapath (udatapath/of_ext_msg.c): OFP_EXT_QUEUE_MODIFY adds a queue
to a port or changes its minimum rate, and OFP_EXT_QUEUE_DELETE removes one. -/
namespace OpenFlow.OfExtMsg
open Actions StepSystem

def netdevMaxQueues : Nat := 8

/- enum ofp_queue_properties -/
def ofpqtMinRate : UInt16 := 1

/- The codes of OFPET_QUEUE_OP_FAILED: enum ofp_queue_op_failed_code, and OFQ_ERR_DISCIPLINE of enum
openflow_queue_error_code. -/
def ofpqofcBadPort : UInt16 := 0
def ofpqofcBadQueue : UInt16 := 1
def ofpqofcEperm : UInt16 := 2
def ofqErrDiscipline : UInt16 := 3

/- struct sw_queue without its counters; `port` says whether the back pointer to the port is set, which is how
port_add_queue tells a slot in use. -/
structure SwQueue where
  queueId : UInt32
  classId : UInt16
  port : Bool
  property : UInt16
  minRate : UInt16
  deriving DecidableEq, Repr

/- A slot after memset(q, '\0', sizeof *q). -/
def SwQueue.zero : SwQueue := ⟨0,0,false,0,0⟩

/- struct sw_port as the queue messages use it: the SWP_USED flag, whether a device is attached, num_queues,
the slots p->queues[] and queue_list, kept as the slot numbers of its nodes in list order. -/
structure SwPort where
  used : Bool
  netdev : Bool
  numQueues : Nat
  queues : Nat → SwQueue
  queueList : List Nat

/- new_port: every slot zeroed and queue_list empty. -/
def newPort (numQueues : Nat) : SwPort := ⟨true,true,numQueues,fun _ => .zero,[]⟩

/- The datapath's ports: dp->ports[] below DP_MAX_PORTS, and the local port if there is one. -/
structure PortTable where
  ports : UInt16 → SwPort
  localPort : Option SwPort

/- dp_lookup_port -/
def dpLookupPort (dp : PortTable) (portNo : UInt16) : Option SwPort :=
  if portNo < Datapath.dpMaxPorts then some (dp.ports portNo)
  else if portNo = ofppLocal then dp.localPort
  else none

/- The port dp_lookup_port found, written back in its place. -/
def PortTable.setPort (dp : PortTable) (portNo : UInt16) (p : SwPort) : PortTable :=
  if portNo < Datapath.dpMaxPorts then { dp with ports := Function.update dp.ports portNo p }
  else { dp with localPort := some p }

/- dp_lookup_queue: the first node of queue_list with the id. -/
def dpLookupQueue (p : SwPort) (queueId : UInt32) : Option Nat :=
  p.queueList.find? fun i => (p.queues i).queueId == queueId

/- new_queue: the slot filled and its node put at the back of queue_list. -/
def newQueue (p : SwPort) (slot : Nat) (queueId : UInt32) (classId : UInt16) (property rate : UInt16) : SwPort :=
  { p with
    queues := Function.update p.queues slot ⟨queueId,classId,true,property,rate⟩
    queueList := p.queueList ++ [slot] }

/- The loop of port_add_queue from slot `queueNo`, with `n` slots left below num_queues: the first free slot
gets the queue, with its number as class. -/
def portAddQueueFrom (p : SwPort) (queueId : UInt32) (property rate : UInt16) : Nat → Nat → Except Halt (Option SwPort)
  | _, 0 => pure none
  | queueNo, n + 1 =>
    if queueNo < netdevMaxQueues then
      if !(p.queues queueNo).port then pure (some (newQueue p queueNo queueId queueNo.toUInt16 property rate))
      else portAddQueueFrom p queueId property rate (queueNo + 1) n
    else .error .outOfBounds

def portAddQueue (p : SwPort) (queueId : UInt32) (property rate : UInt16) : Except Halt (Option SwPort) :=
  portAddQueueFrom p queueId property rate 1 (p.numQueues - 1)

/- port_delete_queue: the node unlinked and the slot zeroed. -/
def portDeleteQueue (p : SwPort) (slot : Nat) : SwPort :=
  { p with queueList := p.queueList.erase slot,queues := Function.update p.queues slot .zero }

/- recv_of_exp_queue_delete; netdev_delete_class's result is not looked at. -/
def recvOfExpQueueDelete (dp : PortTable) (portNo : UInt16) (queueId : UInt32) :
    Except Halt (PortTable × Option UInt16) :=
  match dpLookupPort dp portNo with
  | none => .error .nullDeref
  | some p =>
    if p.netdev then
      match dpLookupQueue p queueId with
      | some slot => pure (dp.setPort portNo (portDeleteQueue p slot),none)
      | none => pure (dp,some ofpqofcBadPort)
    else pure (dp,some ofpqofcBadPort)

/- recv_of_exp_queue_modify: only a queue of 24 bytes with a single min-rate property is taken. -/
def recvOfExpQueueModify (dp : PortTable) (portNo : UInt16) (queueId : UInt32) (len property rate : UInt16)
    (tcFails : Bool) : Except Halt (PortTable × Option UInt16) :=
  if len ≠ 24 ∨ property ≠ ofpqtMinRate then pure (dp,some ofqErrDiscipline)
  else
    match dpLookupPort dp portNo with
    | some p =>
      if p.used then
        match dpLookupQueue p queueId with
        | some slot =>
          if tcFails then pure (dp,some ofpqofcEperm)
          else
            let q := { p.queues slot with property,minRate := rate }
            pure (dp.setPort portNo { p with queues := Function.update p.queues slot q },none)
        | none => do
          match ← portAddQueue p queueId property rate with
          | none => pure (dp,some ofpqofcEperm)
          | some p =>
            match dpLookupQueue p queueId with
            | none => .error .nullDeref
            | some _ => pure (dp.setPort portNo p,if tcFails then some ofpqofcBadQueue else none)
      else pure (dp,some ofpqofcBadPort)
    | none => pure (dp,some ofpqofcBadPort)

/- A queue message for a port and a queue: OFP_EXT_QUEUE_MODIFY with the length of its ofp_packet_queue and
its first property's type and rate, and whether the traffic-class call it makes fails; or
OFP_EXT_QUEUE_DELETE. -/
inductive QueueMsg where
  | modify (portNo : UInt16) (queueId : UInt32) (len property rate : UInt16) (tcFails : Bool)
  | delete (portNo : UInt16) (queueId : UInt32)

def QueueMsg.portNo : QueueMsg → UInt16
  | .modify portNo .. => portNo
  | .delete portNo _ => portNo

/- The vendor-message dispatch for the two queue messages. -/
def recvQueueMsg (dp : PortTable) : QueueMsg → Except Halt (PortTable × Option UInt16)
  | .modify portNo queueId len property rate tcFails => recvOfExpQueueModify dp portNo queueId len property rate tcFails
  | .delete portNo queueId => recvOfExpQueueDelete dp portNo queueId

/- A crash ends a run; the replies are not kept. -/
def queueStep (s : Except Halt PortTable) (msg : QueueMsg) : Except Halt PortTable :=
  s.bind fun dp => (recvQueueMsg dp msg).map Prod.fst

section Lookup
variable {p : SwPort} {queueId : UInt32} {slot : Nat}

theorem lookupQueueSome (found : dpLookupQueue p queueId = some slot) :
    slot ∈ p.queueList ∧ (p.queues slot).queueId = queueId := by
  unfold dpLookupQueue at found
  exact ⟨List.mem_of_find?_eq_some found,by simpa using List.find?_some found⟩

theorem lookupQueueNone (absent : dpLookupQueue p queueId = none) : ∀ i ∈ p.queueList, (p.queues i).queueId ≠ queueId := by
  unfold dpLookupQueue at absent
  intro i mem same
  simpa [same] using List.find?_eq_none.mp absent i mem

end Lookup

section Invariant

/- The two views of a port's queues agree: queue_list links exactly the slots in use, all of them in
p->queues[1 .. -/
structure Good (p : SwPort) : Prop where
  bounded : p.numQueues ≤ netdevMaxQueues
  listed : ∀ i, i ∈ p.queueList ↔ (p.queues i).port = true
  inRange : ∀ i ∈ p.queueList, 1 ≤ i ∧ i < p.numQueues
  nodup : p.queueList.Nodup
  unique : ∀ i ∈ p.queueList, ∀ j ∈ p.queueList, (p.queues i).queueId = (p.queues j).queueId → i = j
  classes : ∀ i ∈ p.queueList, (p.queues i).classId.toNat = i

variable {p : SwPort}

theorem newPortGood {numQueues : Nat} (bounded : numQueues ≤ netdevMaxQueues) : Good (newPort numQueues) where
  bounded := bounded
  listed := fun i => by simp [newPort,SwQueue.zero]
  inRange := fun i mem => by cases mem
  nodup := List.nodup_nil
  unique := fun i mem => by cases mem
  classes := fun i mem => by cases mem

theorem Good.retag (good : Good p) {queues : Nat → SwQueue}
    (same : ∀ i, (queues i).queueId = (p.queues i).queueId ∧ (queues i).classId = (p.queues i).classId ∧
      (queues i).port = (p.queues i).port) : Good { p with queues } where
  bounded := good.bounded
  listed := fun i => by rw [(same i).2.2]; exact good.listed i
  inRange := good.inRange
  nodup := good.nodup
  unique := fun i mem j mem' ids => good.unique i mem j mem' (by rw [← (same i).1,← (same j).1]; exact ids)
  classes := fun i mem => by rw [(same i).2.1]; exact good.classes i mem

theorem newQueueGood (good : Good p) {slot : Nat} (low : 1 ≤ slot) (high : slot < p.numQueues)
    (free : (p.queues slot).port = false) {queueId : UInt32} (fresh : ∀ i ∈ p.queueList, (p.queues i).queueId ≠ queueId)
    (property rate : UInt16) : Good (newQueue p slot queueId slot.toUInt16 property rate) := by
  have unlisted : slot ∉ p.queueList := fun mem => by simp [(good.listed slot).mp mem] at free
  have other : ∀ i ∈ p.queueList, i ≠ slot := fun i mem same => unlisted (same ▸ mem)
  refine ⟨good.bounded,fun i => ?_,fun i mem => ?_,?_,fun i mem j mem' ids => ?_,fun i mem => ?_⟩
  · by_cases here : i = slot
    · subst here
      simp [newQueue]
    · simp [newQueue,here,good.listed i]
  · simp only [newQueue,List.mem_append,List.mem_singleton] at mem
    rcases mem with old | rfl
    · exact good.inRange i old
    · exact ⟨low,high⟩
  · exact List.nodup_append.mpr ⟨good.nodup,List.nodup_singleton slot,by simpa using other⟩
  · simp only [newQueue,List.mem_append,List.mem_singleton] at mem mem' ids
    rcases mem with old | rfl <;> rcases mem' with old' | rfl
    · rw [Function.update_of_ne (other i old),Function.update_of_ne (other j old')] at ids
      exact good.unique i old j old' ids
    · rw [Function.update_of_ne (other i old),Function.update_self] at ids
      exact absurd ids (fresh i old)
    · rw [Function.update_self,Function.update_of_ne (other j old')] at ids
      exact absurd ids.symm (fresh j old')
    · rfl
  · simp only [newQueue,List.mem_append,List.mem_singleton] at mem
    rcases mem with old | rfl
    · simp only [newQueue]
      rw [Function.update_of_ne (other i old)]
      exact good.classes i old
    · have small : i < 2 ^ 16 := by
        have := good.bounded
        unfold netdevMaxQueues at this
        omega
      simp only [newQueue,Function.update_self]
      exact Nat.mod_eq_of_lt small

theorem deleteGood (good : Good p) {slot : Nat} (mem : slot ∈ p.queueList) : Good (portDeleteQueue p slot) := by
  have erased : ∀ i, i ∈ p.queueList.erase slot ↔ i ≠ slot ∧ i ∈ p.queueList := fun i => good.nodup.mem_erase_iff
  refine ⟨good.bounded,fun i => ?_,fun i mem' => ?_,good.nodup.erase slot,fun i mem₁ j mem₂ ids => ?_,fun i mem' => ?_⟩
  · by_cases here : i = slot
    · subst here
      simp [portDeleteQueue,erased,SwQueue.zero]
    · simp [portDeleteQueue,erased,here,good.listed i]
  · exact good.inRange i ((erased i).mp mem').2
  · obtain ⟨other,old⟩ := (erased i).mp mem₁
    obtain ⟨other',old'⟩ := (erased j).mp mem₂
    simp only [portDeleteQueue,Function.update_of_ne other,Function.update_of_ne other'] at ids
    exact good.unique i old j old' ids
  · obtain ⟨other,old⟩ := (erased i).mp mem'
    simp only [portDeleteQueue,Function.update_of_ne other]
    exact good.classes i old

end Invariant

section AddQueue
variable (p : SwPort) (queueId : UInt32) (property rate : UInt16)

theorem portAddQueueFromSpec : ∀ (n queueNo : Nat), queueNo + n ≤ netdevMaxQueues →
    (portAddQueueFrom p queueId property rate queueNo n = .ok none ∧
      ∀ i, queueNo ≤ i → i < queueNo + n → (p.queues i).port = true) ∨
    ∃ slot, queueNo ≤ slot ∧ slot < queueNo + n ∧ (p.queues slot).port = false ∧
      portAddQueueFrom p queueId property rate queueNo n = .ok (some (newQueue p slot queueId slot.toUInt16 property rate))
  | 0, queueNo, _ => .inl ⟨rfl,fun i low high => by omega⟩
  | n + 1, queueNo, within => by
    have inside : queueNo < netdevMaxQueues := by omega
    by_cases free : (p.queues queueNo).port = false
    · exact .inr ⟨queueNo,le_rfl,by omega,free,by simp [portAddQueueFrom,inside,free,pure,Except.pure]⟩
    · have taken : (p.queues queueNo).port = true := by simpa using free
      have step : portAddQueueFrom p queueId property rate queueNo (n + 1) =
          portAddQueueFrom p queueId property rate (queueNo + 1) n := by
        simp [portAddQueueFrom,inside,taken]
      rw [step]
      rcases portAddQueueFromSpec n (queueNo + 1) (by omega) with ⟨full,used⟩ | ⟨slot,low,high,open_,added⟩
      · refine .inl ⟨full,fun i low high => ?_⟩
        by_cases first : i = queueNo
        · exact first ▸ taken
        · exact used i (by omega) (by omega)
      · exact .inr ⟨slot,by omega,by omega,open_,added⟩

theorem portAddQueueSpec (good : Good p) :
    (portAddQueue p queueId property rate = .ok none ∧ ∀ i, 1 ≤ i → i < p.numQueues → (p.queues i).port = true) ∨
    ∃ slot, 1 ≤ slot ∧ slot < p.numQueues ∧ (p.queues slot).port = false ∧
      portAddQueue p queueId property rate = .ok (some (newQueue p slot queueId slot.toUInt16 property rate)) := by
  have bounded := good.bounded
  unfold netdevMaxQueues at bounded
  rcases portAddQueueFromSpec p queueId property rate (p.numQueues - 1) 1 (by unfold netdevMaxQueues; omega) with
    ⟨full,used⟩ | ⟨slot,low,high,free,added⟩
  · exact .inl ⟨full,fun i low high => used i low (by omega)⟩
  · exact .inr ⟨slot,low,by omega,free,added⟩

theorem lookupNewQueue {slot : Nat} (unlisted : slot ∉ p.queueList) (absent : dpLookupQueue p queueId = none) :
    dpLookupQueue (newQueue p slot queueId slot.toUInt16 property rate) queueId = some slot := by
  have before : ∀ i ∈ p.queueList, (p.queues i).queueId ≠ queueId := lookupQueueNone absent
  unfold dpLookupQueue newQueue
  rw [List.find?_append]
  have skipped : p.queueList.find? (fun i =>
      (Function.update p.queues slot ⟨queueId,slot.toUInt16,true,property,rate⟩ i).queueId == queueId) = none := by
    refine List.find?_eq_none.mpr fun i mem => ?_
    have other : i ≠ slot := fun same => unlisted (same ▸ mem)
    simpa [Function.update_of_ne other] using before i mem
  simp [skipped]

end AddQueue

section Table
variable {dp dp' : PortTable} {portNo : UInt16} {p : SwPort}

/- Every port of the table is good, the local one too. -/
def AllGood (dp : PortTable) : Prop := (∀ n, Good (dp.ports n)) ∧ ∀ p, dp.localPort = some p → Good p

/- The same port numbers name ports. -/
def SamePorts (dp dp' : PortTable) : Prop := ∀ m, (dpLookupPort dp' m).isSome = (dpLookupPort dp m).isSome

/- What a queue message does to the table: nothing, or a good port written back in the place of the one it
names. -/
def Writes (dp dp' : PortTable) (portNo : UInt16) : Prop := dp' = dp ∨ ∃ p', Good p' ∧ dp' = dp.setPort portNo p'

theorem lookupGood (all : AllGood dp) (found : dpLookupPort dp portNo = some p) : Good p := by
  unfold dpLookupPort at found
  split at found
  · cases found
    exact all.1 portNo
  · split at found
    · exact all.2 p found
    · cases found

theorem setPortGood (all : AllGood dp) (good : Good p) : AllGood (dp.setPort portNo p) := by
  unfold PortTable.setPort
  split
  · refine ⟨fun n => ?_,all.2⟩
    by_cases here : n = portNo
    · subst here
      simpa using good
    · simpa [Function.update_of_ne here] using all.1 n
  · refine ⟨all.1,fun q stored => ?_⟩
    cases stored
    exact good

theorem setPortSame (found : (dpLookupPort dp portNo).isSome) (p : SwPort) : SamePorts dp (dp.setPort portNo p) := by
  intro m
  unfold dpLookupPort PortTable.setPort
  unfold dpLookupPort at found
  by_cases low : portNo < Datapath.dpMaxPorts
  · simp only [low,if_true]
    split <;> rfl
  · have local_ : portNo = ofppLocal := by
      by_contra other
      simp [low,other] at found
    simp only [low,if_false]
    split
    · rfl
    · split
      · rename_i mLocal
        subst mLocal local_
        simpa [low] using found.symm
      · rfl

theorem lookupSetPort (found : (dpLookupPort dp portNo).isSome) (p : SwPort) :
    dpLookupPort (dp.setPort portNo p) portNo = some p := by
  unfold dpLookupPort at found ⊢
  unfold PortTable.setPort
  by_cases low : portNo < Datapath.dpMaxPorts
  · simp [low]
  · have local_ : portNo = ofppLocal := by
      by_contra other
      simp [low,other] at found
    subst local_
    simp [low]

theorem Writes.good (all : AllGood dp) (found : (dpLookupPort dp portNo).isSome) (writes : Writes dp dp' portNo) :
    AllGood dp' ∧ SamePorts dp dp' := by
  rcases writes with rfl | ⟨p',good,rfl⟩
  · exact ⟨all,fun _ => rfl⟩
  · exact ⟨setPortGood all good,setPortSame found p'⟩

end Table

section Messages
variable {dp : PortTable} {portNo : UInt16}

theorem deleteSpec (all : AllGood dp) (found : (dpLookupPort dp portNo).isSome) (queueId : UInt32) :
    ∃ dp' reply, recvOfExpQueueDelete dp portNo queueId = .ok (dp',reply) ∧ Writes dp dp' portNo ∧
      (reply.isSome → dp' = dp) := by
  obtain ⟨p,looked⟩ := Option.isSome_iff_exists.mp found
  have good := lookupGood all looked
  unfold recvOfExpQueueDelete
  rw [looked]
  dsimp only
  split
  · split
    · rename_i slot queued
      exact ⟨_,none,rfl,.inr ⟨_,deleteGood good (lookupQueueSome queued).1,rfl⟩,fun sent => by cases sent⟩
    · exact ⟨dp,_,rfl,.inl rfl,fun _ => rfl⟩
  · exact ⟨dp,_,rfl,.inl rfl,fun _ => rfl⟩

theorem modifySpec (all : AllGood dp) (found : (dpLookupPort dp portNo).isSome) (queueId : UInt32)
    (len property rate : UInt16) (tcFails : Bool) :
    ∃ dp' reply, recvOfExpQueueModify dp portNo queueId len property rate tcFails = .ok (dp',reply) ∧
      Writes dp dp' portNo ∧ ∀ code, reply = some code → code ≠ ofpqofcBadQueue → dp' = dp := by
  obtain ⟨p,looked⟩ := Option.isSome_iff_exists.mp found
  have good := lookupGood all looked
  unfold recvOfExpQueueModify
  split
  · exact ⟨dp,_,rfl,.inl rfl,fun _ _ _ => rfl⟩
  rw [looked]
  dsimp only
  split
  swap
  · exact ⟨dp,_,rfl,.inl rfl,fun _ _ _ => rfl⟩
  split
  · rename_i slot queued
    split
    · exact ⟨dp,_,rfl,.inl rfl,fun _ _ _ => rfl⟩
    · -- the new rate: the slot keeps its id, class and back pointer
      refine ⟨_,none,rfl,.inr ⟨_,good.retag fun i => ?_,rfl⟩,fun code sent => by cases sent⟩
      by_cases here : i = slot
      · subst here
        simp
      · simp [Function.update_of_ne here]
  · rename_i absent
    rcases portAddQueueSpec p queueId property rate good with ⟨full,_⟩ | ⟨slot,low,high,free,added⟩
    · rw [full]
      exact ⟨dp,_,rfl,.inl rfl,fun _ _ _ => rfl⟩
    · have unlisted : slot ∉ p.queueList := fun mem => by simp [(good.listed slot).mp mem] at free
      simp only [added,bind,Except.bind,lookupNewQueue p queueId property rate unlisted absent]
      refine ⟨_,_,rfl,.inr ⟨_,newQueueGood good low high free (lookupQueueNone absent) property rate,rfl⟩,
        fun code sent other => ?_⟩
      cases tcFails
      · cases sent
      · cases sent
        exact absurd rfl other

theorem recvQueueMsgSpec (all : AllGood dp) (msg : QueueMsg) (found : (dpLookupPort dp msg.portNo).isSome) :
    ∃ dp' reply, recvQueueMsg dp msg = .ok (dp',reply) ∧ AllGood dp' ∧ SamePorts dp dp' := by
  cases msg with
  | modify portNo queueId len property rate tcFails =>
    obtain ⟨dp',reply,done,writes,_⟩ := modifySpec all found queueId len property rate tcFails
    exact ⟨dp',reply,done,writes.good all found⟩
  | delete portNo queueId =>
    obtain ⟨dp',reply,done,writes,_⟩ := deleteSpec all found queueId
    exact ⟨dp',reply,done,writes.good all found⟩

end Messages

section Runs

/- Every run of queue messages for ports that exist: nothing crashes, and on every port queue_list and
p->queues[] stay in agreement, with unique ids and each queue's class its slot. -/
theorem queueRunGood (dp₀ : PortTable) (all : AllGood dp₀) (msgs : List QueueMsg)
    (named : ∀ msg ∈ msgs, (dpLookupPort dp₀ msg.portNo).isSome) :
    ∃ dp, run queueStep (.ok dp₀) msgs = .ok dp ∧ ∀ portNo p, dpLookupPort dp portNo = some p → Good p := by
  have kept := @runInvariant _ _ queueStep (fun s => ∃ dp, s = .ok dp ∧ AllGood dp ∧ SamePorts dp₀ dp)
    (fun msg => (dpLookupPort dp₀ msg.portNo).isSome) ?_ msgs _ named ⟨dp₀,rfl,all,fun _ => rfl⟩
  · obtain ⟨dp,ran,all',_⟩ := kept
    exact ⟨dp,ran,fun _ _ looked => lookupGood all' looked⟩
  · rintro s msg allowed ⟨dp,rfl,all',same⟩
    have found : (dpLookupPort dp msg.portNo).isSome := by rw [same]; exact allowed
    obtain ⟨dp',reply,done,all'',same'⟩ := recvQueueMsgSpec all' msg found
    refine ⟨dp',?_,all'',fun m => (same' m).trans (same m)⟩
    simp [queueStep,Except.bind,done,Except.map]

/- Ports with two queue slots each and no local port. -/
def twoSlotPorts : PortTable := ⟨fun _ => newPort 2,none⟩

/- A queue added to port 1, its rate changed, then deleted. -/
theorem queueRunGoodAddDelete :
    AllGood twoSlotPorts ∧
      (∀ msg ∈ [QueueMsg.modify 1 7 24 ofpqtMinRate 10 false,.modify 1 7 24 ofpqtMinRate 20 false,.delete 1 7],
        (dpLookupPort twoSlotPorts msg.portNo).isSome) ∧
      ∃ dp, run queueStep (.ok twoSlotPorts)
          [QueueMsg.modify 1 7 24 ofpqtMinRate 10 false,.modify 1 7 24 ofpqtMinRate 20 false,.delete 1 7] = .ok dp ∧
        ∀ portNo p, dpLookupPort dp portNo = some p → Good p :=
  have all : AllGood twoSlotPorts := ⟨fun _ => newPortGood (by decide),fun _ found => by cases found⟩
  have named : ∀ msg ∈ [QueueMsg.modify 1 7 24 ofpqtMinRate 10 false,.modify 1 7 24 ofpqtMinRate 20 false,.delete 1 7],
      (dpLookupPort twoSlotPorts msg.portNo).isSome := by
    decide
  ⟨all,named,queueRunGood _ all _ named⟩

/- A queue that port_add_queue has linked stays linked when netdev_setup_class then fails: the error reply
OFPQOFC_BAD_QUEUE goes out, but the port has a queue with the id that it did not have before. -/
theorem setupFailureKeepsQueue {dp : PortTable} {portNo : UInt16} {p : SwPort} (all : AllGood dp)
    (looked : dpLookupPort dp portNo = some p) (used : p.used = true) {queueId : UInt32}
    (absent : dpLookupQueue p queueId = none) {slot : Nat} (low : 1 ≤ slot) (high : slot < p.numQueues)
    (free : (p.queues slot).port = false) (rate : UInt16) :
    ∃ dp' p', recvOfExpQueueModify dp portNo queueId 24 ofpqtMinRate rate true = .ok (dp',some ofpqofcBadQueue) ∧
      dpLookupPort dp' portNo = some p' ∧ ∃ added, p'.queueList = p.queueList ++ [added] ∧
        dpLookupQueue p' queueId = some added := by
  have good := lookupGood all looked
  rcases portAddQueueSpec p queueId ofpqtMinRate rate good with ⟨_,full⟩ | ⟨added,_,_,open_,addedThere⟩
  · -- the free slot rules out EXFULL
    exact absurd (full slot low high) (by simp [free])
  have unlisted : added ∉ p.queueList := fun mem => by simp [(good.listed added).mp mem] at open_
  have found : (dpLookupPort dp portNo).isSome := by simp [looked]
  refine ⟨_,_,?_,lookupSetPort found _,added,rfl,lookupNewQueue p queueId ofpqtMinRate rate unlisted absent⟩
  simp [recvOfExpQueueModify,looked,used,absent,addedThere,bind,Except.bind,
    lookupNewQueue p queueId ofpqtMinRate rate unlisted absent]
  rfl

/- A datapath whose ports all came up with NETDEV_MAX_QUEUES slots, and no local port. -/
def slicedTable : PortTable := ⟨fun _ => newPort netdevMaxQueues,none⟩

theorem slicedTableGood : AllGood slicedTable := ⟨fun _ => newPortGood le_rfl,fun _ none => by cases none⟩

theorem slicedSetupFailure :
    ∃ dp' p', recvOfExpQueueModify slicedTable 1 7 24 ofpqtMinRate 100 true = .ok (dp',some ofpqofcBadQueue) ∧
      dpLookupPort dp' 1 = some p' ∧ ∃ added, p'.queueList = (newPort netdevMaxQueues).queueList ++ [added] ∧
        dpLookupQueue p' 7 = some added :=
  setupFailureKeepsQueue slicedTableGood rfl rfl rfl le_rfl (by decide) rfl 100

end Runs

end OpenFlow.OfExtMsg
