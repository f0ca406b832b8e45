import Mathlib
import OpenFlow.Datapath

/-! The port watcher of the secure channel (secchan/port-watcher.c). -/
namespace OpenFlow.PortWatcher
open Actions Datapath

/- enum ofp_port_reason, and OFPPS_STP_MASK -/
def ofpprAdd : UInt8 := 0
def ofpprDelete : UInt8 := 1
def ofpprModify : UInt8 := 2
def ofppsStpMask : UInt32 := (3 : UInt32) <<< 8

/- struct ofp_phy_port: 48 bytes, no padding. -/
structure PhyPort where
  portNo : UInt16
  hwAddr : EthAddr
  name : Vector UInt8 16
  config : UInt32
  state : UInt32
  curr : UInt32
  advertised : UInt32
  supported : UInt32
  peer : UInt32
  deriving DecidableEq, Repr

/- The port_array of struct port_watcher: a description or a null pointer for each of the 2^16 port numbers.
-/
abbrev PortTable := UInt16 → Option PhyPort

/- One call_port_changed_callbacks: the port number, old and new. -/
abbrev Announce := UInt16 × Option PhyPort × Option PhyPort

/- opp_differs: how many of the nine fields differ. -/
def oppDiffers (a b : PhyPort) : Nat :=
  (decide (a.portNo ≠ b.portNo)).toNat + (decide (a.hwAddr ≠ b.hwAddr)).toNat + (decide (a.name ≠ b.name)).toNat +
    (decide (a.config ≠ b.config)).toNat + (decide (a.state ≠ b.state)).toNat + (decide (a.curr ≠ b.curr)).toNat +
    (decide (a.advertised ≠ b.advertised)).toNat + (decide (a.supported ≠ b.supported)).toNat +
    (decide (a.peer ≠ b.peer)).toNat

/- sanitize_opp. -/
def sanitizeChar (c : UInt8) : UInt8 := if c ≠ 0 ∧ (c < 0x20 ∨ c > 0x7e) then 0x2e else c

def sanitizeOpp (opp : PhyPort) : PhyPort := { opp with name := (opp.name.map sanitizeChar).set 15 0 }

/- A report keeps the STP bits of the entry it replaces. -/
def keepStp (old : Option PhyPort) (opp : PhyPort) : PhyPort :=
  match old with
  | some o => { opp with state := (opp.state &&& ~~~ofppsStpMask) ||| (o.state &&& ofppsStpMask) }
  | none => opp

/- update_phy_port: the table and the callbacks it makes. -/
def updatePhyPort (ports : PortTable) (opp : PhyPort) (reason : UInt8) : PortTable × List Announce :=
  let portNo := opp.portNo
  let old := ports portNo
  if reason = ofpprDelete ∧ old.isSome then (Function.update ports portNo none,[(portNo,old,none)])
  else if reason = ofpprModify ∨ reason = ofpprAdd then
    let opp := keepStp old opp
    let changed := match old with
      | some o => decide (oppDiffers opp o ≠ 0)
      | none => true
    if changed then
      let new := sanitizeOpp opp
      (Function.update ports portNo (some new),[(portNo,old,some new)])
    else (ports,[])
  else (ports,[])

/- The order port_array_first and port_array_next visit the port numbers. -/
def portArrayOrder : List UInt16 := (List.range 65536).map Nat.toUInt16

/- One port of a FEATURES_REPLY, reported as a MODIFY. -/
def reportModify (acc : PortTable × List Announce) (opp : PhyPort) : PortTable × List Announce :=
  ((updatePhyPort acc.1 opp ofpprModify).1,acc.2 ++ (updatePhyPort acc.1 opp ofpprModify).2)

/- One port number of the deletion loop: a stored port the reply did not list is deleted. -/
def deleteUnlisted (seen : UInt16 → Bool) (acc : PortTable × List Announce) (n : UInt16) : PortTable × List Announce :=
  match acc.1 n with
  | some p => if !seen n then ((updatePhyPort acc.1 p ofpprDelete).1,acc.2 ++ (updatePhyPort acc.1 p ofpprDelete).2)
    else acc
  | none => acc

/- FEATURES_REPLY: each port of the reply as a MODIFY, then every stored port the reply did not list deleted,
in port-number order. -/
def featuresReply (ports : PortTable) (reply : List PhyPort) : PortTable × List Announce :=
  let seen := fun n : UInt16 => reply.any fun opp => opp.portNo == n
  portArrayOrder.foldl (deleteUnlisted seen) (reply.foldl reportModify (ports,[]))

/- The messages from the datapath the port watcher reads, as the structs port_watcher_local_packet_cb casts
them to, and the PORT_MOD from the controller that port_watcher_remote_packet_cb reads. -/
inductive PwEvent where
  | featuresReply (ports : List PhyPort)
  | portStatus (reason : UInt8) (desc : PhyPort)
  | portMod (opm : OfpPortMod)

/- port_watcher_remote_packet_cb on an OFPT_PORT_MOD. -/
def portMod (ports : PortTable) (opm : OfpPortMod) : Except Halt (PortTable × List Announce) :=
  match ports opm.portNo with
  | none => .error .nullDeref
  | some p =>
    if p.portNo ≠ ofppNone then
      let new := { p with config := (p.config &&& ~~~opm.mask) ||| (opm.config &&& opm.mask) }
      .ok (Function.update ports opm.portNo (some new),[(opm.portNo,some p,some new)])
    else .ok (ports,[])

def pwStep (ports : PortTable) : PwEvent → Except Halt (PortTable × List Announce)
  | .featuresReply reply => .ok (featuresReply ports reply)
  | .portStatus reason desc => .ok (updatePhyPort ports desc reason)
  | .portMod opm => portMod ports opm

/- A run from port_watcher_create's empty table: the table and every callback made, in order, or the crash. -/
def pwRun (ports : PortTable) : List PwEvent → Except Halt (PortTable × List Announce)
  | [] => .ok (ports,[])
  | ev :: evs => do
    let (ports,said) ← pwStep ports ev
    let (ports,said') ← pwRun ports evs
    pure (ports,said ++ said')

section Tables

/- The table the port watcher's reports describe: a report stores the description with a sanitized name and
the replaced entry's STP bits, a delete clears the entry, a FEATURES_REPLY keeps only the ports it lists, and
a PORT_MOD changes the config bits of a port with an entry. -/
def reportTable (ports : PortTable) (opp : PhyPort) (reason : UInt8) : PortTable :=
  if reason = ofpprDelete then Function.update ports opp.portNo none
  else if reason = ofpprModify ∨ reason = ofpprAdd then
    Function.update ports opp.portNo (some (sanitizeOpp (keepStp (ports opp.portNo) opp)))
  else ports

def featuresTable (ports : PortTable) (reply : List PhyPort) : PortTable :=
  let reported := reply.foldl (fun t opp => reportTable t opp ofpprModify) ports
  fun n => if reply.any (fun opp => opp.portNo == n) then reported n else none

def portModTable (ports : PortTable) (opm : OfpPortMod) : PortTable :=
  match ports opm.portNo with
  | some p => Function.update ports opm.portNo (some { p with config := (p.config &&& ~~~opm.mask) ||| (opm.config &&& opm.mask) })
  | none => ports

def eventTable (ports : PortTable) : PwEvent → PortTable
  | .featuresReply reply => featuresTable ports reply
  | .portStatus reason desc => reportTable ports desc reason
  | .portMod opm => portModTable ports opm

/- What the port watcher keeps: each entry at its own port number, with a sanitized name. -/
structure Stored (ports : PortTable) : Prop where
  indexed : ∀ n p, ports n = some p → p.portNo = n
  sanitized : ∀ n p, ports n = some p → sanitizeOpp p = p

/- Callbacks that account for a change of table: each names the entry as it stood and what it became, and
played in order they turn the first table into the last. -/
inductive Replays : PortTable → List Announce → PortTable → Prop
  | nil (t : PortTable) : Replays t [] t
  | cons {t t' : PortTable} {n : UInt16} {new : Option PhyPort} {rest : List Announce} :
      Replays (Function.update t n new) rest t' → Replays t ((n,t n,new) :: rest) t'

theorem Replays.append {t t' t'' : PortTable} {a b : List Announce} (first : Replays t a t')
    (second : Replays t' b t'') : Replays t (a ++ b) t'' := by
  induction first with
  | nil => exact second
  | cons _ ih => exact .cons (ih second)

theorem replaysOne (t : PortTable) (n : UInt16) (new : Option PhyPort) :
    Replays t [(n,t n,new)] (Function.update t n new) :=
  .cons (.nil _)

end Tables

section Update

theorem sanitizeCharIdem (c : UInt8) : sanitizeChar (sanitizeChar c) = sanitizeChar c := by
  unfold sanitizeChar
  split
  · -- a replaced byte becomes '.', which is printable
    simp
  · rfl

theorem sanitizeOppIdem (p : PhyPort) : sanitizeOpp (sanitizeOpp p) = sanitizeOpp p := by
  simp only [sanitizeOpp,PhyPort.mk.injEq,and_true,true_and]
  ext i hi
  by_cases last : i = 15
  · subst last
    simp
  · simp [Vector.getElem_set_ne _ _ (Ne.symm last),sanitizeCharIdem]

theorem oppDiffersZero {a b : PhyPort} (same : oppDiffers a b = 0) : a = b := by
  simp only [oppDiffers,Nat.add_eq_zero_iff,Bool.toNat_eq_zero,decide_eq_false_iff_not,not_not] at same
  obtain ⟨⟨⟨⟨⟨⟨⟨⟨portNo,hwAddr⟩,name⟩,config⟩,state⟩,curr⟩,advertised⟩,supported⟩,peer⟩ := same
  cases a
  cases b
  simp_all

theorem keepStpPortNo (old : Option PhyPort) (opp : PhyPort) : (keepStp old opp).portNo = opp.portNo := by
  cases old <;> rfl

variable {ports : PortTable}

theorem updatePhyPortTable (stored : Stored ports) (opp : PhyPort) (reason : UInt8) :
    (updatePhyPort ports opp reason).1 = reportTable ports opp reason := by
  unfold updatePhyPort reportTable
  dsimp only
  by_cases delete : reason = ofpprDelete
  · have notReport : ¬(ofpprDelete = ofpprModify ∨ ofpprDelete = ofpprAdd) := by decide
    subst delete
    cases old : ports opp.portNo with
    | none =>
      simp only [Option.isSome_none,Bool.false_eq_true,and_false,if_false,notReport,if_true]
      exact (Function.update_eq_self_iff.mpr old.symm).symm
    | some o => simp
  · simp only [delete,false_and,if_false]
    split
    · cases old : ports opp.portNo with
      | none => simp [keepStp]
      | some o =>
        dsimp only
        split
        · rfl
        · -- nothing differs: the report with the old STP bits is the stored entry
          rename_i unchanged
          have same := oppDiffersZero (by simpa using unchanged)
          rw [same,stored.sanitized _ _ old]
          exact (Function.update_eq_self_iff.mpr old.symm).symm
    · rfl

theorem reportStored (stored : Stored ports) (opp : PhyPort) (reason : UInt8) : Stored (reportTable ports opp reason) := by
  unfold reportTable
  split
  · constructor
    · intro n p entry
      by_cases here : n = opp.portNo
      · subst here
        simp at entry
      · rw [Function.update_of_ne here] at entry
        exact stored.indexed n p entry
    · intro n p entry
      by_cases here : n = opp.portNo
      · subst here
        simp at entry
      · rw [Function.update_of_ne here] at entry
        exact stored.sanitized n p entry
  · split
    · constructor
      · intro n p entry
        by_cases here : n = opp.portNo
        · subst here
          simp only [Function.update_self,Option.some.injEq] at entry
          rw [← entry]
          exact keepStpPortNo _ _
        · rw [Function.update_of_ne here] at entry
          exact stored.indexed n p entry
      · intro n p entry
        by_cases here : n = opp.portNo
        · subst here
          simp only [Function.update_self,Option.some.injEq] at entry
          rw [← entry]
          exact sanitizeOppIdem _
        · rw [Function.update_of_ne here] at entry
          exact stored.sanitized n p entry
    · exact stored

theorem updatePhyPortShape (opp : PhyPort) (reason : UInt8) :
    updatePhyPort ports opp reason = (ports,[]) ∨
      ∃ new, updatePhyPort ports opp reason = (Function.update ports opp.portNo new,[(opp.portNo,ports opp.portNo,new)]) := by
  unfold updatePhyPort
  dsimp only
  split
  · exact Or.inr ⟨none,rfl⟩
  · split
    · cases old : ports opp.portNo with
      | none =>
        rw [if_pos rfl]
        exact Or.inr ⟨_,rfl⟩
      | some o =>
        dsimp only
        split
        · exact Or.inr ⟨_,rfl⟩
        · exact Or.inl rfl
    · exact Or.inl rfl

theorem updatePhyPortReplays (opp : PhyPort) (reason : UInt8) :
    Replays ports (updatePhyPort ports opp reason).2 (updatePhyPort ports opp reason).1 := by
  rcases updatePhyPortShape opp reason with same | ⟨new,changed⟩
  · rw [same]
    exact .nil _
  · rw [changed]
    exact replaysOne _ _ _

end Update

section Features
variable {ports : PortTable}

theorem reportFold (reply : List PhyPort) : ∀ (acc : PortTable × List Announce) (t0 : PortTable),
    Stored acc.1 → Replays t0 acc.2 acc.1 →
    (reply.foldl reportModify acc).1 = reply.foldl (fun t opp => reportTable t opp ofpprModify) acc.1 ∧
      Stored (reply.foldl reportModify acc).1 ∧ Replays t0 (reply.foldl reportModify acc).2 (reply.foldl reportModify acc).1 := by
  induction reply with
  | nil =>
    intro acc t0 stored replays
    exact ⟨rfl,stored,replays⟩
  | cons opp rest ih =>
    intro acc t0 stored replays
    have table := updatePhyPortTable stored opp ofpprModify
    have stored' : Stored (reportModify acc opp).1 := by
      simp only [reportModify,table]
      exact reportStored stored opp ofpprModify
    have replays' : Replays t0 (reportModify acc opp).2 (reportModify acc opp).1 :=
      replays.append (updatePhyPortReplays opp ofpprModify)
    obtain ⟨folded,storedAll,replaysAll⟩ := ih (reportModify acc opp) t0 stored' replays'
    refine ⟨?_,storedAll,replaysAll⟩
    rw [List.foldl_cons,folded,List.foldl_cons]
    simp only [reportModify,table]

theorem deleteUnlistedSpec (seen : UInt16 → Bool) (acc : PortTable × List Announce) (n : UInt16) (t0 : PortTable)
    (stored : Stored acc.1) (replays : Replays t0 acc.2 acc.1) :
    (deleteUnlisted seen acc n).1 = (fun m => if m = n ∧ seen n = false then none else acc.1 m) ∧
      Stored (deleteUnlisted seen acc n).1 ∧ Replays t0 (deleteUnlisted seen acc n).2 (deleteUnlisted seen acc n).1 := by
  unfold deleteUnlisted
  cases entry : acc.1 n with
  | none =>
    refine ⟨funext fun m => ?_,stored,replays⟩
    by_cases here : m = n
    · subst here
      simp [entry]
    · simp [here]
  | some p =>
    dsimp only
    by_cases listed : seen n = true
    · simp only [listed,Bool.not_true,Bool.false_eq_true,if_false]
      refine ⟨funext fun m => ?_,stored,replays⟩
      simp
    · have unlisted : seen n = false := by simpa using listed
      have table := updatePhyPortTable stored p ofpprDelete
      have at_n : p.portNo = n := stored.indexed n p entry
      simp only [unlisted,Bool.not_false,if_true]
      refine ⟨?_,?_,replays.append (updatePhyPortReplays p ofpprDelete)⟩
      · rw [table,reportTable,if_pos rfl,at_n]
        funext m
        by_cases here : m = n
        · subst here
          simp
        · simp [here]
      · rw [table]
        exact reportStored stored p ofpprDelete

theorem deleteFold (seen : UInt16 → Bool) (order : List UInt16) : ∀ (acc : PortTable × List Announce) (t0 : PortTable),
    Stored acc.1 → Replays t0 acc.2 acc.1 →
    (order.foldl (deleteUnlisted seen) acc).1 = (fun m => if m ∈ order ∧ seen m = false then none else acc.1 m) ∧
      Stored (order.foldl (deleteUnlisted seen) acc).1 ∧
      Replays t0 (order.foldl (deleteUnlisted seen) acc).2 (order.foldl (deleteUnlisted seen) acc).1 := by
  induction order with
  | nil =>
    intro acc t0 stored replays
    exact ⟨by simp,stored,replays⟩
  | cons n rest ih =>
    intro acc t0 stored replays
    obtain ⟨table,stored',replays'⟩ := deleteUnlistedSpec seen acc n t0 stored replays
    obtain ⟨folded,storedAll,replaysAll⟩ := ih (deleteUnlisted seen acc n) t0 stored' replays'
    refine ⟨?_,storedAll,replaysAll⟩
    rw [List.foldl_cons,folded,table]
    funext m
    by_cases here : m = n
    · subst here
      by_cases listed : seen m = true <;> simp [listed]
    · simp [here]

theorem memPortArrayOrder (m : UInt16) : m ∈ portArrayOrder := by
  simp only [portArrayOrder,List.mem_map,List.mem_range]
  exact ⟨m.toNat,m.toNat_lt,UInt16.ofNat_toNat⟩

theorem featuresReplySpec (stored : Stored ports) (reply : List PhyPort) :
    (featuresReply ports reply).1 = featuresTable ports reply ∧ Stored (featuresReply ports reply).1 ∧
      Replays ports (featuresReply ports reply).2 (featuresReply ports reply).1 := by
  obtain ⟨reported,storedR,replaysR⟩ := reportFold reply (ports,[]) ports stored (.nil _)
  obtain ⟨table,storedAll,replaysAll⟩ := deleteFold (fun n => reply.any fun opp => opp.portNo == n) portArrayOrder
    (reply.foldl reportModify (ports,[])) ports storedR replaysR
  refine ⟨?_,storedAll,replaysAll⟩
  rw [featuresReply,table,reported]
  funext m
  simp only [featuresTable,memPortArrayOrder,true_and]
  split <;> simp_all

end Features

section PortMod
variable {ports : PortTable}

theorem portModKnown (stored : Stored ports) {opm : OfpPortMod} {p : PhyPort} (known : ports opm.portNo = some p)
    (notNone : opm.portNo ≠ ofppNone) :
    ∃ anns, portMod ports opm = .ok (portModTable ports opm,anns) ∧ Stored (portModTable ports opm) ∧
      Replays ports anns (portModTable ports opm) := by
  have at_n : p.portNo = opm.portNo := stored.indexed _ p known
  have sane : sanitizeOpp p = p := stored.sanitized _ p known
  have table : portModTable ports opm =
      Function.update ports opm.portNo (some { p with config := (p.config &&& ~~~opm.mask) ||| (opm.config &&& opm.mask) }) := by
    simp only [portModTable,known]
  refine ⟨[(opm.portNo,ports opm.portNo,some { p with config := (p.config &&& ~~~opm.mask) ||| (opm.config &&& opm.mask) })],
    ?_,?_,?_⟩
  · simp only [portMod,known,table,at_n,notNone,ne_eq,not_false_eq_true,if_true]
  · rw [table]
    constructor
    · intro n q entry
      by_cases here : n = opm.portNo
      · subst here
        simp only [Function.update_self,Option.some.injEq] at entry
        rw [← entry]
        exact at_n
      · rw [Function.update_of_ne here] at entry
        exact stored.indexed n q entry
    · intro n q entry
      by_cases here : n = opm.portNo
      · subst here
        simp only [Function.update_self,Option.some.injEq] at entry
        rw [← entry]
        have name : (sanitizeOpp p).name = p.name := by rw [sane]
        simp only [sanitizeOpp] at name ⊢
        rw [name]
      · rw [Function.update_of_ne here] at entry
        exact stored.sanitized n q entry
  · rw [table]
    exact replaysOne _ _ _

end PortMod

section Runs

theorem pwRunCons (ports : PortTable) (ev : PwEvent) (evs : List PwEvent) :
    pwRun ports (ev :: evs) = (pwStep ports ev).bind fun r => (pwRun r.1 evs).map fun r' => (r'.1,r.2 ++ r'.2) := rfl

/- A run of the port watcher that does not crash keeps the table its events describe, as long as no PORT_MOD
names OFPP_NONE, and its callbacks account for every change. -/
theorem pwRunRefines (evs : List PwEvent) : ∀ (ports : PortTable), Stored ports →
    (∀ opm, PwEvent.portMod opm ∈ evs → opm.portNo ≠ ofppNone) → ∀ t anns, pwRun ports evs = .ok (t,anns) →
    t = evs.foldl eventTable ports ∧ Replays ports anns t := by
  induction evs with
  | nil =>
    intro ports _ _ t anns ran
    simp only [pwRun,Except.ok.injEq,Prod.mk.injEq] at ran
    obtain ⟨rfl,rfl⟩ := ran
    exact ⟨rfl,.nil _⟩
  | cons ev evs ih =>
    intro ports stored named t anns ran
    have first : ∀ t1 said, pwStep ports ev = .ok (t1,said) →
        t1 = eventTable ports ev ∧ Stored t1 ∧ Replays ports said t1 := by
      intro t1 said stepped
      cases ev with
      | featuresReply reply =>
        simp only [pwStep,Except.ok.injEq] at stepped
        have spec := featuresReplySpec stored reply
        rw [stepped] at spec
        exact spec
      | portStatus reason desc =>
        simp only [pwStep,Except.ok.injEq] at stepped
        have table := updatePhyPortTable stored desc reason
        have replays : Replays ports (updatePhyPort ports desc reason).2 (updatePhyPort ports desc reason).1 :=
          updatePhyPortReplays desc reason
        rw [stepped] at table replays
        dsimp only at table replays
        exact ⟨table,by rw [table]; exact reportStored stored desc reason,replays⟩
      | portMod opm =>
        cases known : ports opm.portNo with
        | none => simp [pwStep,portMod,known] at stepped
        | some p =>
          obtain ⟨said',modded,storedM,replaysM⟩ := portModKnown stored known (named opm List.mem_cons_self)
          simp only [pwStep,modded,Except.ok.injEq,Prod.mk.injEq] at stepped
          obtain ⟨rfl,rfl⟩ := stepped
          exact ⟨rfl,storedM,replaysM⟩
    rw [pwRunCons] at ran
    cases stepped : pwStep ports ev with
    | error e =>
      rw [stepped] at ran
      cases ran
    | ok r =>
      obtain ⟨t1,said⟩ := r
      obtain ⟨table1,stored1,replays1⟩ := first t1 said stepped
      cases rest : pwRun t1 evs with
      | error e =>
        rw [stepped] at ran
        simp only [Except.bind,rest,Except.map] at ran
        cases ran
      | ok r' =>
        obtain ⟨t2,said'⟩ := r'
        rw [stepped] at ran
        simp only [Except.bind,rest,Except.map,Except.ok.injEq,Prod.mk.injEq] at ran
        obtain ⟨rfl,rfl⟩ := ran
        obtain ⟨table2,replays2⟩ := ih t1 stored1 (fun opm mem => named opm (List.mem_cons_of_mem _ mem)) _ _ rest
        refine ⟨?_,replays1.append replays2⟩
        rw [table2,table1,List.foldl_cons]

/- A port added to an empty table. -/
def addedPort : PhyPort := ⟨1,#v[0,0,0,0,0,1],Vector.replicate 16 0,0,0,0,0,0,0⟩

theorem pwRunRefinesAdd :
    Stored (fun _ => none) ∧
      (∀ opm, PwEvent.portMod opm ∈ [PwEvent.portStatus ofpprAdd addedPort] → opm.portNo ≠ ofppNone) ∧
      ∀ t anns, pwRun (fun _ => none) [.portStatus ofpprAdd addedPort] = .ok (t,anns) →
        t = [PwEvent.portStatus ofpprAdd addedPort].foldl eventTable (fun _ => none) ∧ Replays (fun _ => none) anns t :=
  have stored : Stored (fun _ => none) := ⟨fun _ _ found => (nomatch found),fun _ _ found => (nomatch found)⟩
  have named : ∀ opm, PwEvent.portMod opm ∈ [PwEvent.portStatus ofpprAdd addedPort] → opm.portNo ≠ ofppNone := by
    simp
  ⟨stored,named,pwRunRefines _ _ stored named⟩

end Runs

theorem portModUnknownCrashes (ports : PortTable) (pre post : List PwEvent) (opm : OfpPortMod) {t : PortTable}
    {anns : List Announce} (before : pwRun ports pre = .ok (t,anns)) (unknown : t opm.portNo = none) :
    pwRun ports (pre ++ .portMod opm :: post) = .error .nullDeref := by
  induction pre generalizing ports anns with
  | nil =>
    simp only [pwRun,Except.ok.injEq,Prod.mk.injEq] at before
    obtain ⟨rfl,-⟩ := before
    rw [List.nil_append,pwRunCons]
    simp only [pwStep,portMod,unknown]
    rfl
  | cons ev pre ih =>
    rw [pwRunCons] at before
    rw [List.cons_append,pwRunCons]
    cases stepped : pwStep ports ev with
    | error e =>
      rw [stepped] at before
      cases before
    | ok r =>
      cases rest : pwRun r.1 pre with
      | error e =>
        rw [stepped] at before
        simp only [Except.bind,rest,Except.map] at before
        cases before
      | ok r' =>
        rw [stepped] at before
        simp only [Except.bind,rest,Except.map,Except.ok.injEq,Prod.mk.injEq] at before
        obtain ⟨rfl,-⟩ := before
        simp only [Except.bind,ih r.1 rest,Except.map]

/- Port 1 reported by an OFPPR_ADD, then a PORT_MOD for port 2. -/
def portOne : PhyPort := ⟨1,#v[0,0,0,0,0,1],#v[101,116,104,49,0,0,0,0,0,0,0,0,0,0,0,0],0,0,0,0,0,0⟩

theorem portModNeverReported :
    pwRun (fun _ => none) [.portStatus ofpprAdd portOne] =
        .ok ((updatePhyPort (fun _ => none) portOne ofpprAdd).1,(updatePhyPort (fun _ => none) portOne ofpprAdd).2 ++ []) ∧
      (updatePhyPort (fun _ => none) portOne ofpprAdd).1 2 = none ∧
      pwRun (fun _ => none) [.portStatus ofpprAdd portOne,.portMod ⟨2,#v[0,0,0,0,0,2],1,1⟩] = .error .nullDeref :=
  ⟨rfl,rfl,portModUnknownCrashes (fun _ => none) [.portStatus ofpprAdd portOne] [] ⟨2,#v[0,0,0,0,0,2],1,1⟩ rfl rfl⟩

end OpenFlow.PortWatcher
