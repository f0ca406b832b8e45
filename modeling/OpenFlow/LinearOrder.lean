import Mathlib
import OpenFlow.Entries

/-! The two orders of the linear table (udatapath/table-linear.c) over any sequence of its operations. -/
namespace OpenFlow.LinearOrder
open TableLinear Entries Select StepSystem FlowMod ChainRules

/- Where an entry stands: its priority, and when it came in. -/
def rank (f : SwFlow) : UInt16 × Nat := (f.priority,f.serial)

/- The order of `flows`: higher priority first, and older first within one priority. -/
def Before (a b : UInt16 × Nat) : Prop := b.1 < a.1 ∨ (b.1 = a.1 ∧ a.2 < b.2)

/- The orders and the count of a linear table. -/
structure Ordered (tl : SwTableLinear) : Prop where
  count : tl.nFlows = tl.flows.length
  room : tl.nFlows ≤ tl.maxFlows
  sorted : (tl.flows.map rank).Pairwise Before
  listed : (tl.flows.map (·.serial)).Perm tl.iterFlows
  newest : tl.iterFlows.Pairwise (· > ·)
  fresh : ∀ f ∈ tl.flows, f.serial < tl.nextSerial

/- The table operations as the chain hands them on. -/
inductive LinearOp where
  | insert (flow : SwFlow)
  | modify (key : SwFlowKey) (priority : UInt16) (strict : Bool) (actions : List UInt8)
  | delete (key : SwFlowKey) (outPort priority : UInt16) (strict : Bool)
  | timeout (now : UInt64)

def linearStep (tl : SwTableLinear) : LinearOp → SwTableLinear
  | .insert flow => (tableLinearInsert tl flow).2
  | .modify key priority strict actions => (tableLinearModify tl key priority strict actions).2
  | .delete key outPort priority strict => (tableLinearDelete tl key outPort priority strict).2
  | .timeout now => (tableLinearTimeout tl now).2

section Steps
variable {tl : SwTableLinear}

theorem Before.priority {a b : UInt16 × Nat} (before : Before a b) : b.1 ≤ a.1 := by
  rcases before with lower | ⟨same,_⟩
  · exact UInt16.le_of_lt lower
  · exact UInt16.le_of_eq same

theorem Ordered.bySerial (ordered : Ordered tl) : (tl.flows.map (·.serial)).Nodup :=
  ordered.listed.nodup_iff.mpr (ordered.newest.imp fun later => Nat.ne_of_gt later)

theorem Ordered.byPriority (ordered : Ordered tl) : tl.flows.Pairwise fun f g => g.priority ≤ f.priority :=
  (List.pairwise_map.mp ordered.sorted).imp Before.priority

theorem orderedCreate (maxFlows : Nat) : Ordered (tableLinearCreate maxFlows) :=
  ⟨rfl,Nat.zero_le _,List.Pairwise.nil,List.Perm.nil,List.Pairwise.nil,fun _ mem => by cases mem⟩

theorem orderedReplaced (ordered : Ordered tl) {pre post : List SwFlow} {f flow : SwFlow}
    (split : tl.flows = pre ++ f :: post) (same : sameEntry f flow = true) :
    Ordered { tl with flows := pre ++ { flow with serial := f.serial } :: post } := by
  have samePriority : f.priority = flow.priority := by
    simp only [sameEntry,Bool.and_eq_true,beq_iff_eq] at same
    exact same.1.1
  have ranks : (pre ++ { flow with serial := f.serial } :: post).map rank = tl.flows.map rank := by
    simp [split,rank,samePriority]
  have serials : (pre ++ { flow with serial := f.serial } :: post).map (·.serial) = tl.flows.map (·.serial) := by
    simp [split]
  refine ⟨by simp [ordered.count,split],ordered.room,ranks ▸ ordered.sorted,serials ▸ ordered.listed,ordered.newest,?_⟩
  intro g mem
  simp only [List.mem_append,List.mem_cons] at mem
  rcases mem with inPre | rfl | inPost
  · exact ordered.fresh g (by simp [split,inPre])
  · exact ordered.fresh f (by simp [split])
  · exact ordered.fresh g (by simp [split,inPost])

theorem orderedStopped (ordered : Ordered tl) {flow : SwFlow} {before after : List SwFlow} (split : tl.flows = before ++ after)
    (passed : ∀ g ∈ before, sameEntry g flow = false ∧ flow.priority ≤ g.priority)
    (below : ∀ g ∈ after.head?, g.priority < flow.priority) (space : tl.nFlows < tl.maxFlows) :
    Ordered { tl with
      nFlows := tl.nFlows + 1
      flows := before ++ { flow with serial := tl.nextSerial } :: after
      iterFlows := tl.nextSerial :: tl.iterFlows
      nextSerial := tl.nextSerial + 1 } := by
  have sorted := ordered.sorted
  rw [split,List.map_append,List.pairwise_append] at sorted
  obtain ⟨sBefore,sAfter,sCross⟩ := sorted
  have lower := belowStop (List.pairwise_append.mp (split ▸ ordered.byPriority)).2.1 below
  refine ⟨?_,?_,?_,?_,?_,?_⟩
  · simp only [ordered.count,split,List.length_append,List.length_cons]
    omega
  · show tl.nFlows + 1 ≤ tl.maxFlows
    omega
  · rw [List.map_append,List.map_cons,List.pairwise_append]
    refine ⟨sBefore,List.pairwise_cons.mpr ⟨?_,sAfter⟩,fun a inBefore b mem => ?_⟩
    · -- everything after the stop has lower priority
      intro b mem
      obtain ⟨h,inAfter,rfl⟩ := List.mem_map.mp mem
      exact .inl (lower h inAfter)
    · obtain ⟨g,inBefore',rfl⟩ := List.mem_map.mp inBefore
      rcases List.mem_cons.mp mem with rfl | inAfter
      · -- the new entry is the newest of its priority
        rcases UInt16.lt_or_eq_of_le (passed g inBefore').2 with higher | same
        · exact .inl higher
        · exact .inr ⟨same,ordered.fresh g (by simp [split,inBefore'])⟩
      · exact sCross _ inBefore b inAfter
  · have serials : (before ++ { flow with serial := tl.nextSerial } :: after).map (·.serial) =
        before.map (·.serial) ++ tl.nextSerial :: after.map (·.serial) := by simp
    rw [serials]
    exact List.perm_middle.trans ((by simpa [split] using ordered.listed : (before.map (·.serial) ++
      after.map (·.serial)).Perm tl.iterFlows).cons tl.nextSerial)
  · refine List.pairwise_cons.mpr ⟨fun serial mem => ?_,ordered.newest⟩
    obtain ⟨g,inFlows,rfl⟩ := List.mem_map.mp (ordered.listed.mem_iff.mpr mem)
    exact ordered.fresh g inFlows
  · intro g mem
    simp only [List.mem_append,List.mem_cons] at mem
    rcases mem with inBefore | rfl | inAfter
    · exact Nat.lt_succ_of_lt (ordered.fresh g (by simp [split,inBefore]))
    · exact Nat.lt_succ_self _
    · exact Nat.lt_succ_of_lt (ordered.fresh g (by simp [split,inAfter]))

theorem orderedInsert (ordered : Ordered tl) (flow : SwFlow) : Ordered (tableLinearInsert tl flow).2 := by
  rcases scanInsertCases flow tl.flows with ⟨pre,f,post,split,same,_,scan⟩ | ⟨before,after,split,passed,below,scan⟩
  · simp only [tableLinearInsert,scan]
    exact orderedReplaced ordered split same
  · simp only [tableLinearInsert,scan]
    split
    · exact ordered
    · rename_i full
      exact orderedStopped ordered split passed below (Nat.lt_of_not_le full)

theorem orderedMap (ordered : Ordered tl) {h : SwFlow → SwFlow} (priority : ∀ f, (h f).priority = f.priority)
    (serial : ∀ f, (h f).serial = f.serial) : Ordered { tl with flows := tl.flows.map h } := by
  have ranks : (tl.flows.map h).map rank = tl.flows.map rank := by simp [rank,priority,serial]
  have serials : (tl.flows.map h).map (·.serial) = tl.flows.map (·.serial) := by simp [serial]
  refine ⟨by simp [ordered.count],ordered.room,ranks ▸ ordered.sorted,serials ▸ ordered.listed,ordered.newest,?_⟩
  intro g mem
  obtain ⟨f,inFlows,rfl⟩ := List.mem_map.mp mem
  exact (serial f).symm ▸ ordered.fresh f inFlows

theorem orderedRemove (ordered : Ordered tl) (keep : SwFlow → Bool) {gone : List SwFlow}
    (goneSerials : gone.map (·.serial) = (tl.flows.filter fun f => !keep f).map (·.serial)) :
    Ordered { tl with
      flows := tl.flows.filter keep
      iterFlows := tl.iterFlows.filter fun serial => !gone.any fun flow => flow.serial == serial
      nFlows := tl.nFlows - gone.length } := by
  obtain ⟨listed,counted⟩ := removeListed ordered.bySerial ordered.listed keep goneSerials
  refine ⟨?_,?_,?_,listed,ordered.newest.filter _,fun f mem => ordered.fresh f (List.mem_filter.mp mem).1⟩
  · simp only [ordered.count]
    omega
  · show tl.nFlows - gone.length ≤ tl.maxFlows
    have := ordered.room
    omega
  · exact List.pairwise_map.mpr ((List.pairwise_map.mp ordered.sorted).filter keep)

theorem orderedStep (ordered : Ordered tl) (op : LinearOp) : Ordered (linearStep tl op) := by
  cases op with
  | insert flow => exact orderedInsert ordered flow
  | modify key priority strict actions =>
    refine orderedMap ordered (fun f => ?_) (fun f => ?_) <;> (split <;> rfl)
  | delete key outPort priority strict =>
    refine orderedRemove ordered (fun flow => !deleteSelects key outPort priority strict flow) ?_
    simp only [Bool.not_not]
  | timeout now => exact orderedRemove ordered (fun f => (flowTimeout now f).isNone) (timeoutGoneSerials now tl.flows)

end Steps

section Runs
variable {tl : SwTableLinear}

theorem iterOrderSerials (ordered : Ordered tl) : (linearIterOrder tl).map (·.serial) = tl.iterFlows := by
  have each : ∀ s ∈ tl.iterFlows, ∃ f, tl.flows.find? (·.serial == s) = some f ∧ f.serial = s := by
    intro s mem
    obtain ⟨f,inFlows,rfl⟩ := List.mem_map.mp (ordered.listed.mem_iff.mpr mem)
    exact ⟨f,findSerial ordered.bySerial inFlows,rfl⟩
  unfold linearIterOrder
  generalize tl.iterFlows = serials at each ⊢
  induction serials with
  | nil => rfl
  | cons s rest ih =>
    obtain ⟨f,found,named⟩ := each s List.mem_cons_self
    rw [List.filterMap_cons,found]
    simp [named,ih fun t mem => each t (List.mem_cons_of_mem s mem)]

/- Over every sequence of table_linear_insert, table_linear_modify, table_linear_delete and
table_linear_timeout on a new table: flows runs by priority, highest first, with the entries of one priority
in the order they came in; iter_flows walks the same entries by strictly decreasing serial; every serial is
below next_serial; n_flows counts the entries and stays within max_flows. -/
theorem linearRunsOrdered (maxFlows : Nat) (reach : Reachable linearStep (tableLinearCreate maxFlows) tl) :
    tl.flows.Pairwise (fun f g => g.priority < f.priority ∨ (g.priority = f.priority ∧ f.serial < g.serial)) ∧
      (tl.flows.map (·.serial)).Perm tl.iterFlows ∧ tl.iterFlows.Pairwise (· > ·) ∧
      (linearIterOrder tl).Perm tl.flows ∧ (linearIterOrder tl).Pairwise (fun f g => g.serial < f.serial) ∧
      (∀ f ∈ tl.flows, f.serial < tl.nextSerial) ∧ tl.nFlows = tl.flows.length ∧ tl.nFlows ≤ tl.maxFlows := by
  have ordered := Reachable.invariant (orderedCreate maxFlows) (fun tl op holds => orderedStep holds op) reach
  have walked : (linearIterOrder tl).Pairwise fun f g => g.serial < f.serial := by
    have newest := ordered.newest
    rw [← iterOrderSerials ordered] at newest
    exact List.pairwise_map.mp newest
  exact ⟨List.pairwise_map.mp ordered.sorted,ordered.listed,ordered.newest,iterOrderPerm ordered.bySerial ordered.listed,
    walked,ordered.fresh,ordered.count,ordered.room⟩

/- Two rules of different priority and a timeout pass, into a table of two. -/
def twoRules : List LinearOp :=
  [.insert (newFlow wideMod 0),.insert (newFlow (flowModOf ofpfcAdd matchAll 0x9000) 0),.timeout 0]

theorem twoRulesOrdered :
    let tl := run linearStep (tableLinearCreate 2) twoRules
    tl.flows.Pairwise (fun f g => g.priority < f.priority ∨ (g.priority = f.priority ∧ f.serial < g.serial)) ∧
      (tl.flows.map (·.serial)).Perm tl.iterFlows ∧ tl.iterFlows.Pairwise (· > ·) ∧
      (linearIterOrder tl).Perm tl.flows ∧ (linearIterOrder tl).Pairwise (fun f g => g.serial < f.serial) ∧
      (∀ f ∈ tl.flows, f.serial < tl.nextSerial) ∧ tl.nFlows = tl.flows.length ∧ tl.nFlows ≤ tl.maxFlows :=
  linearRunsOrdered 2 (reachableRun _ _ _)

end Runs

end OpenFlow.LinearOrder
