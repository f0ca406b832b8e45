import OpenFlow.Select

/-! What the chain keeps of its entries beyond where they sit. -/
namespace OpenFlow.Entries
open Bits TableHash TableLinear Chain FlowMod Store Select StepSystem

/- A key flow_extract_match gives. -/
def Normalized (key : SwFlowKey) : Prop := ∃ m, flowExtractMatch m = key

/- What add_flow gives every entry it builds. -/
structure EntryOk (flow : SwFlow) : Prop where
  normalized : Normalized flow.key
  exact : flow.key.wildcards = 0 → flow.priority = 0xffff

theorem newFlowOk (ofm : OfpFlowMod) (now : UInt64) : EntryOk (newFlow ofm now) := by
  refine ⟨⟨ofm.ofpMatch,rfl⟩,fun exact => ?_⟩
  have noWild : (flowExtractMatch ofm.ofpMatch).wildcards = 0 := exact
  simp [newFlow,flowPriority,noWild]

theorem normalizedMasks {key : SwFlowKey} (normal : Normalized key) :
    key.nwSrcMask = makeNwMask (key.wildcards >>> ofpfwNwSrcShift) ∧
      key.nwDstMask = makeNwMask (key.wildcards >>> ofpfwNwDstShift) := by
  obtain ⟨m,rfl⟩ := normal
  unfold flowExtractMatch
  split
  exact ⟨rfl,rfl⟩

theorem fillNormalized {key : SwFlowKey} (normal : Normalized key) :
    flowExtractMatch (flowFillMatch key.flow key.wildcards) = key := by
  obtain ⟨m,rfl⟩ := normal
  exact flowExtractMatchFill m

section Rule

theorem flowFieldsMatchRefl (a : Flow) (w s d : UInt32) : flowFieldsMatch a a w s d = true := by
  simp [flowFieldsMatch]

theorem flowFieldsMatchSymm (a b : Flow) (w s d : UInt32) :
    flowFieldsMatch a b w s d = flowFieldsMatch b a w s d := by
  simp only [flowFieldsMatch,BEq.comm,UInt32.xor_comm]

theorem flowFieldsMatchTrans {a b c : Flow} {w s d : UInt32} (ab : flowFieldsMatch a b w s d = true)
    (bc : flowFieldsMatch b c w s d = true) : flowFieldsMatch a c w s d = true := by
  simp only [flowFieldsMatch,Bool.and_eq_true,beq_iff_eq] at ab bc ⊢
  grind [xorMaskTrans]

theorem sameEntrySymm (f g : SwFlow) : sameEntry f g = sameEntry g f := by
  simp only [sameEntry,flowMatches2wild,flowFieldsMatchSymm f.key.flow,BEq.comm,UInt32.or_comm,UInt32.and_comm]

theorem sameEntryTrans {f g h : SwFlow} (nf : Normalized f.key) (ng : Normalized g.key) (nh : Normalized h.key)
    (fg : sameEntry f g = true) (gh : sameEntry g h = true) : sameEntry f h = true := by
  simp only [sameEntry,Bool.and_eq_true,beq_iff_eq] at fg gh ⊢
  obtain ⟨⟨pfg,wfg⟩,mfg⟩ := fg
  obtain ⟨⟨pgh,wgh⟩,mgh⟩ := gh
  refine ⟨⟨pfg.trans pgh,wfg.trans wgh⟩,?_⟩
  have mf := normalizedMasks nf
  have mg := normalizedMasks ng
  have mh := normalizedMasks nh
  simp only [flowMatches2wild,mf.1,mf.2,mg.1,mg.2,mh.1,mh.2,← wgh,← wfg,UInt32.or_self,UInt32.and_self] at mfg mgh ⊢
  exact flowFieldsMatchTrans mfg mgh

theorem sameEntryPriority {f g : SwFlow} (differ : f.priority ≠ g.priority) : sameEntry f g = false := by
  simp [sameEntry,differ]

end Rule

theorem scanInsertCases (flow : SwFlow) : ∀ flows : List SwFlow,
    (∃ pre f post, flows = pre ++ f :: post ∧ sameEntry f flow = true ∧
      (∀ g ∈ pre, sameEntry g flow = false ∧ flow.priority ≤ g.priority) ∧
      scanInsert flow flows = .replaced (pre ++ { flow with serial := f.serial } :: post)) ∨
    (∃ before after, flows = before ++ after ∧
      (∀ g ∈ before, sameEntry g flow = false ∧ flow.priority ≤ g.priority) ∧
      (∀ g ∈ after.head?, g.priority < flow.priority) ∧
      scanInsert flow flows = .stopped before after)
  | [] => .inr ⟨[],[],rfl,by simp,by simp,rfl⟩
  | f :: rest => by
    by_cases same : sameEntry f flow = true
    · exact .inl ⟨[],f,rest,rfl,same,by simp,by simp [scanInsert,same]⟩
    by_cases lower : f.priority < flow.priority
    · exact .inr ⟨[],f :: rest,rfl,by simp,by simpa using lower,by simp [scanInsert,same,lower]⟩
    have passed : sameEntry f flow = false ∧ flow.priority ≤ f.priority := ⟨by simpa using same,by simpa using lower⟩
    rcases scanInsertCases flow rest with ⟨pre,g,post,split,sameG,before,scan⟩ | ⟨before,after,split,passedAll,below,scan⟩
    · refine .inl ⟨f :: pre,g,post,by simp [split],sameG,?_,by simp [scanInsert,same,lower,scan]⟩
      intro h mem
      rcases List.mem_cons.mp mem with rfl | later
      · exact passed
      · exact before h later
    · refine .inr ⟨f :: before,after,by simp [split],?_,below,by simp [scanInsert,same,lower,scan]⟩
      intro h mem
      rcases List.mem_cons.mp mem with rfl | later
      · exact passed
      · exact passedAll h later

/- The linear table's bookkeeping, as table-linear.c keeps it. -/
structure LinearGood (tl : SwTableLinear) : Prop where
  count : tl.nFlows = tl.flows.length
  room : tl.flows.length ≤ tl.maxFlows
  entries : ∀ f ∈ tl.flows, EntryOk f
  distinct : tl.flows.Pairwise fun f g => sameEntry f g = false
  sorted : tl.flows.Pairwise fun f g => g.priority ≤ f.priority
  serials : (tl.flows.map (·.serial)).Nodup
  listed : (tl.flows.map (·.serial)).Perm tl.iterFlows
  fresh : ∀ f ∈ tl.flows, f.serial < tl.nextSerial

theorem linearGoodCreate (maxFlows : Nat) : LinearGood (tableLinearCreate maxFlows) :=
  ⟨rfl,Nat.zero_le _,by simp [tableLinearCreate],by simp [tableLinearCreate],by simp [tableLinearCreate],
    by simp [tableLinearCreate],by simp [tableLinearCreate],by simp [tableLinearCreate]⟩

theorem sortedOfPriorities {flows flows' : List SwFlow} (same : flows'.map (·.priority) = flows.map (·.priority))
    (sorted : flows.Pairwise fun f g => g.priority ≤ f.priority) : flows'.Pairwise fun f g => g.priority ≤ f.priority := by
  have byPriority : (flows.map (·.priority)).Pairwise fun x y => y ≤ x := List.pairwise_map.mpr sorted
  rw [← same] at byPriority
  exact List.pairwise_map.mp byPriority

theorem belowStop {flow : SwFlow} {after : List SwFlow} (sorted : after.Pairwise fun f g => g.priority ≤ f.priority)
    (below : ∀ g ∈ after.head?, g.priority < flow.priority) : ∀ g ∈ after, g.priority < flow.priority := by
  intro g mem
  cases after with
  | nil => cases mem
  | cons h rest =>
    have first := below h rfl
    rcases List.mem_cons.mp mem with rfl | later
    · exact first
    · have le := List.rel_of_pairwise_cons sorted later
      rw [UInt16.le_iff_toNat_le] at le
      rw [UInt16.lt_iff_toNat_lt] at first ⊢
      omega

section Insert
variable {tl : SwTableLinear} (good : LinearGood tl) {flow : SwFlow} (ok : EntryOk flow)
include good ok

theorem linearGoodReplaced {pre post : List SwFlow} {f : SwFlow} (split : tl.flows = pre ++ f :: post)
    (same : sameEntry f flow = true) (passed : ∀ g ∈ pre, sameEntry g flow = false) :
    LinearGood { tl with flows := pre ++ { flow with serial := f.serial } :: post } := by
  have fOk := good.entries f (by simp [split])
  have samePriority : f.priority = flow.priority := by
    simp only [sameEntry,Bool.and_eq_true,beq_iff_eq] at same
    exact same.1.1
  have serials : (pre ++ { flow with serial := f.serial } :: post).map (·.serial) = tl.flows.map (·.serial) := by
    simp [split]
  have priorities : (pre ++ { flow with serial := f.serial } :: post).map (·.priority) = tl.flows.map (·.priority) := by
    simp [split,samePriority]
  obtain ⟨dPre,dRest,dCross⟩ := List.pairwise_append.mp (split ▸ good.distinct)
  obtain ⟨fPost,dPost⟩ := List.pairwise_cons.mp dRest
  refine ⟨by simp [good.count,split],by simpa [split] using good.room,?_,?_,sortedOfPriorities priorities good.sorted,
    serials ▸ good.serials,serials ▸ good.listed,?_⟩
  · intro g mem
    simp only [List.mem_append,List.mem_cons] at mem
    rcases mem with inPre | rfl | inPost
    · exact good.entries g (by simp [split,inPre])
    · exact ⟨ok.normalized,ok.exact⟩
    · exact good.entries g (by simp [split,inPost])
  · refine List.pairwise_append.mpr ⟨dPre,List.pairwise_cons.mpr ⟨?_,dPost⟩,?_⟩
    · -- a later entry of the new one's rule would be one of `f`'s
      intro g mem
      have gOk := good.entries g (by simp [split,mem])
      by_contra joined
      have fg := sameEntryTrans fOk.normalized ok.normalized gOk.normalized same (Bool.eq_true_of_not_eq_false joined)
      rw [fPost g mem] at fg
      cases fg
    · intro g inPre h mem
      rcases List.mem_cons.mp mem with rfl | inPost
      · exact passed g inPre
      · exact dCross g inPre h (List.mem_cons_of_mem f inPost)
  · intro g mem
    simp only [List.mem_append,List.mem_cons] at mem
    rcases mem with inPre | rfl | inPost
    · exact good.fresh g (by simp [split,inPre])
    · exact good.fresh f (by simp [split])
    · exact good.fresh g (by simp [split,inPost])

theorem linearGoodStopped {before after : List SwFlow} (split : tl.flows = before ++ after)
    (passed : ∀ g ∈ before, sameEntry g flow = false ∧ flow.priority ≤ g.priority)
    (below : ∀ g ∈ after.head?, g.priority < flow.priority) (space : tl.nFlows < tl.maxFlows) :
    LinearGood { tl with
      nFlows := tl.nFlows + 1
      flows := before ++ { flow with serial := tl.nextSerial } :: after
      iterFlows := tl.nextSerial :: tl.iterFlows
      nextSerial := tl.nextSerial + 1 } := by
  obtain ⟨dBefore,dAfter,dCross⟩ := List.pairwise_append.mp (split ▸ good.distinct)
  obtain ⟨sBefore,sAfter,sCross⟩ := List.pairwise_append.mp (split ▸ good.sorted)
  have lower := belowStop sAfter below
  have serials : (before ++ { flow with serial := tl.nextSerial } :: after).map (·.serial) =
      before.map (·.serial) ++ tl.nextSerial :: after.map (·.serial) := by simp
  have unused : tl.nextSerial ∉ tl.flows.map (·.serial) := by
    intro mem
    obtain ⟨g,inFlows,same⟩ := List.mem_map.mp mem
    exact Nat.lt_irrefl _ (same ▸ good.fresh g inFlows)
  have oldSerials : tl.flows.map (·.serial) = before.map (·.serial) ++ after.map (·.serial) := by simp [split]
  refine ⟨?_,?_,?_,?_,?_,?_,?_,?_⟩
  · simp only [good.count,split,List.length_append,List.length_cons]
    omega
  · have := good.count
    simp only [split,List.length_append] at this ⊢
    simp only [List.length_cons]
    omega
  · intro g mem
    simp only [List.mem_append,List.mem_cons] at mem
    rcases mem with inBefore | rfl | inAfter
    · exact good.entries g (by simp [split,inBefore])
    · exact ⟨ok.normalized,ok.exact⟩
    · exact good.entries g (by simp [split,inAfter])
  · refine List.pairwise_append.mpr ⟨dBefore,List.pairwise_cons.mpr ⟨?_,dAfter⟩,?_⟩
    · intro g mem
      exact sameEntryPriority (UInt16.ne_of_lt (lower g mem)).symm
    · intro g inBefore h mem
      rcases List.mem_cons.mp mem with rfl | inAfter
      · exact (passed g inBefore).1
      · exact dCross g inBefore h inAfter
  · refine List.pairwise_append.mpr ⟨sBefore,List.pairwise_cons.mpr ⟨fun g mem => UInt16.not_lt.mp (UInt16.lt_asymm (lower g mem)),sAfter⟩,?_⟩
    intro g inBefore h mem
    rcases List.mem_cons.mp mem with rfl | inAfter
    · exact (passed g inBefore).2
    · exact sCross g inBefore h inAfter
  · rw [serials,List.nodup_middle]
    rw [oldSerials] at unused
    exact List.nodup_cons.mpr ⟨unused,oldSerials ▸ good.serials⟩
  · rw [serials]
    exact List.perm_middle.trans ((oldSerials ▸ good.listed).cons tl.nextSerial)
  · intro g mem
    simp only [List.mem_append,List.mem_cons] at mem
    rcases mem with inBefore | rfl | inAfter
    · exact Nat.lt_succ_of_lt (good.fresh g (by simp [split,inBefore]))
    · exact Nat.lt_succ_self _
    · exact Nat.lt_succ_of_lt (good.fresh g (by simp [split,inAfter]))

theorem linearGoodInsert : LinearGood (tableLinearInsert tl flow).2 := by
  rcases scanInsertCases flow tl.flows with ⟨pre,f,post,split,same,passed,scan⟩ | ⟨before,after,split,passed,below,scan⟩
  · simp only [tableLinearInsert,scan]
    exact linearGoodReplaced good ok split same fun g mem => (passed g mem).1
  · simp only [tableLinearInsert,scan]
    split
    · exact good
    · rename_i space
      exact linearGoodStopped good ok split passed below (Nat.lt_of_not_le space)

end Insert

theorem linearGoodMap {tl : SwTableLinear} (good : LinearGood tl) {h : SwFlow → SwFlow}
    (key : ∀ f, (h f).key = f.key) (priority : ∀ f, (h f).priority = f.priority) (serial : ∀ f, (h f).serial = f.serial) :
    LinearGood { tl with flows := tl.flows.map h } := by
  have serials : (tl.flows.map h).map (·.serial) = tl.flows.map (·.serial) := by simp [serial]
  have priorities : (tl.flows.map h).map (·.priority) = tl.flows.map (·.priority) := by simp [priority]
  refine ⟨by simp [good.count],by simpa using good.room,?_,?_,sortedOfPriorities priorities good.sorted,
    serials ▸ good.serials,serials ▸ good.listed,?_⟩
  · intro g mem
    obtain ⟨f,inFlows,rfl⟩ := List.mem_map.mp mem
    have fOk := good.entries f inFlows
    exact ⟨(key f).symm ▸ fOk.normalized,fun exact => (priority f).trans (fOk.exact ((key f) ▸ exact))⟩
  · refine List.pairwise_map.mpr (good.distinct.imp ?_)
    intro f g distinct
    simpa only [sameEntry,key,priority] using distinct
  · intro g mem
    obtain ⟨f,inFlows,rfl⟩ := List.mem_map.mp mem
    exact (serial f).symm ▸ good.fresh f inFlows

theorem removeListed {flows : List SwFlow} {iterFlows : List Nat} (serials : (flows.map (·.serial)).Nodup)
    (listed : (flows.map (·.serial)).Perm iterFlows) (keep : SwFlow → Bool) {gone : List SwFlow}
    (goneSerials : gone.map (·.serial) = (flows.filter fun f => !keep f).map (·.serial)) :
    ((flows.filter keep).map (·.serial)).Perm (iterFlows.filter fun serial => !gone.any fun flow => flow.serial == serial) ∧
      gone.length + (flows.filter keep).length = flows.length := by
  have inj := List.inj_on_of_nodup_map serials
  have removed : ∀ f ∈ flows, (gone.any fun g => g.serial == f.serial) = !keep f := by
    intro f mem
    rw [Bool.eq_iff_iff]
    have inGone : (gone.any fun g => g.serial == f.serial) = true ↔ f.serial ∈ gone.map (·.serial) := by
      simp [List.any_eq_true,List.mem_map]
    rw [inGone,goneSerials,List.mem_map]
    constructor
    · rintro ⟨g,picked,same⟩
      obtain ⟨inFlows,dropped⟩ := List.mem_filter.mp picked
      rw [inj inFlows mem same] at dropped
      exact dropped
    · intro dropped
      exact ⟨f,List.mem_filter.mpr ⟨mem,dropped⟩,rfl⟩
  have kept : flows.filter (fun f => !gone.any fun g => g.serial == f.serial) = flows.filter keep :=
    List.filter_congr fun f mem => by rw [removed f mem,Bool.not_not]
  have goneLength : gone.length = (flows.filter fun f => !keep f).length := by
    rw [← List.length_map (f := (·.serial)),goneSerials,List.length_map]
  refine ⟨?_,?_⟩
  · have filtered := listed.filter fun serial => !gone.any fun flow => flow.serial == serial
    rw [List.filter_map] at filtered
    simpa only [Function.comp_def,kept] using filtered
  · have split := List.length_eq_length_filter_add keep (l := flows)
    omega

theorem linearGoodRemove {tl : SwTableLinear} (good : LinearGood tl) (keep : SwFlow → Bool) {gone : List SwFlow}
    (goneSerials : gone.map (·.serial) = (tl.flows.filter fun f => !keep f).map (·.serial)) :
    LinearGood { tl with
      flows := tl.flows.filter keep
      iterFlows := tl.iterFlows.filter fun serial => !gone.any fun flow => flow.serial == serial
      nFlows := tl.nFlows - gone.length } := by
  obtain ⟨listed,counted⟩ := removeListed good.serials good.listed keep goneSerials
  refine ⟨?_,Nat.le_trans (List.length_filter_le _ _) good.room,?_,good.distinct.filter keep,good.sorted.filter keep,
    ((List.filter_sublist).map _).nodup good.serials,listed,?_⟩
  · simp only [good.count]
    omega
  · intro f mem
    exact good.entries f (List.mem_filter.mp mem).1
  · intro f mem
    exact good.fresh f (List.mem_filter.mp mem).1

theorem timeoutGoneSerials (now : UInt64) : ∀ flows : List SwFlow,
    (flows.filterMap fun flow => (flowTimeout now flow).map fun reason => { flow with reason }).map (·.serial) =
      (flows.filter fun f => !(flowTimeout now f).isNone).map (·.serial)
  | [] => rfl
  | f :: rest => by
    cases expired : flowTimeout now f with
    | none => simp [expired,timeoutGoneSerials now rest]
    | some reason => simp [expired,timeoutGoneSerials now rest]

/- The linear tables chain_create makes, with the bookkeeping and capacity they keep. -/
def LinearTable : SwTable → Prop
  | .linear tl => LinearGood tl ∧ tl.maxFlows = tableLinearMaxFlows
  | _ => True

theorem tableLinearInsertMax (tl : SwTableLinear) (flow : SwFlow) : (tableLinearInsert tl flow).2.maxFlows = tl.maxFlows := by
  unfold tableLinearInsert
  split
  · rfl
  · split <;> rfl

theorem linearInvariant : TableInvariant LinearTable EntryOk where
  insert := by
    intro t flow holds ok
    cases t with
    | hash th => trivial
    | hash2 t2 => trivial
    | linear tl => exact ⟨linearGoodInsert holds.1 ok,(tableLinearInsertMax tl flow).trans holds.2⟩
  modify := by
    intro t key priority strict actions holds
    cases t with
    | hash th => trivial
    | hash2 t2 => trivial
    | linear tl =>
      refine ⟨linearGoodMap holds.1 (fun f => ?_) (fun f => ?_) (fun f => ?_),holds.2⟩ <;>
        (split <;> rfl)
  delete := by
    intro t key outPort priority strict holds
    cases t with
    | hash th => trivial
    | hash2 t2 => trivial
    | linear tl =>
      refine ⟨linearGoodRemove holds.1 (fun flow => !deleteSelects key outPort priority strict flow) ?_,holds.2⟩
      simp only [Bool.not_not]
  timeout := by
    intro t now holds
    cases t with
    | hash th => trivial
    | hash2 t2 => trivial
    | linear tl => exact ⟨linearGoodRemove holds.1 (fun f => (flowTimeout now f).isNone) (timeoutGoneSerials now tl.flows),holds.2⟩

theorem chainLinearReachable {chain : SwChain} (reach : ChainReachable chain) : ChainHolds LinearTable chain := by
  refine chainHoldsReachable linearInvariant newFlowOk ⟨fun t mem => ?_,⟨linearGoodCreate _,rfl⟩⟩ reach
  simp only [chainCreate,List.mem_cons,List.not_mem_nil,or_false] at mem
  rcases mem with rfl | rfl
  · trivial
  · exact ⟨linearGoodCreate _,rfl⟩

theorem findSerial {flows : List SwFlow} (serials : (flows.map (·.serial)).Nodup) {f : SwFlow} (mem : f ∈ flows) :
    flows.find? (·.serial == f.serial) = some f := by
  rw [List.find?_eq_some_iff_append]
  obtain ⟨pre,post,rfl⟩ := List.append_of_mem mem
  refine ⟨by simp,pre,post,rfl,fun g inPre => ?_⟩
  by_contra same
  have gf : g = f := List.inj_on_of_nodup_map serials (List.mem_append_left _ inPre) mem (by simpa using same)
  rw [List.map_append,List.map_cons,List.nodup_append] at serials
  exact serials.2.2 _ (List.mem_map_of_mem inPre) _ List.mem_cons_self (congrArg (·.serial) gf)

theorem iterOrderPerm {tl : SwTableLinear} (serials : (tl.flows.map (·.serial)).Nodup)
    (listed : (tl.flows.map (·.serial)).Perm tl.iterFlows) : (linearIterOrder tl).Perm tl.flows := by
  have found := listed.symm.filterMap fun serial => tl.flows.find? (·.serial == serial)
  have each : tl.flows.filterMap (fun f => tl.flows.find? (·.serial == f.serial)) = tl.flows := by
    rw [List.filterMap_congr fun f mem => findSerial serials mem,List.filterMap_some]
  rw [List.filterMap_map,Function.comp_def,each] at found
  exact found

theorem linearIterOrderPerm {tl : SwTableLinear} (good : LinearGood tl) : (linearIterOrder tl).Perm tl.flows :=
  iterOrderPerm good.serials good.listed

section Shape

/- Which of the three implementations behind struct sw_table a table is. -/
def tableKind : SwTable → Nat
  | .hash _ => 0
  | .hash2 _ => 1
  | .linear _ => 2

@[simp] theorem tableKindInsert (t : SwTable) (flow : SwFlow) : tableKind (t.insert flow).2 = tableKind t := by
  cases t <;> rfl

@[simp] theorem tableKindModify (t : SwTable) (key : SwFlowKey) (priority : UInt16) (strict : Bool)
    (actions : List UInt8) : tableKind (t.modify key priority strict actions).2 = tableKind t := by
  cases t <;> rfl

@[simp] theorem tableKindDelete (t : SwTable) (key : SwFlowKey) (outPort priority : UInt16) (strict : Bool) :
    tableKind (t.delete key outPort priority strict).2 = tableKind t := by
  cases t <;> rfl

@[simp] theorem tableKindTimeout (t : SwTable) (now : UInt64) : tableKind (t.timeout now).2 = tableKind t := by
  cases t <;> rfl

theorem insertFirstKinds {flow : SwFlow} :
    ∀ {tables tables' : List SwTable}, insertFirst tables flow = some tables' → tables'.map tableKind = tables.map tableKind
  | [], _, done => by cases done
  | t :: ts, tables', done => by
    unfold insertFirst at done
    split at done
    · rename_i into
      cases done
      have kind := tableKindInsert t flow
      rw [into] at kind
      simp [kind]
    · obtain ⟨ts',found,rfl⟩ := Option.map_eq_some_iff.mp done
      simp [insertFirstKinds found]

/- Every table keeps the kind chain_create gave it. -/
def ChainShape (chain : SwChain) : Prop :=
  chain.tables.map tableKind = chainCreate.tables.map tableKind ∧ tableKind chain.emergTable = tableKind chainCreate.emergTable

theorem shapeInvariant (FP : SwFlow → Prop) : ChainInvariant ChainShape FP where
  insert := by
    intro chain chain' flow emerg shape _ done
    unfold chainInsert at done
    split at done
    · split at done
      · rename_i into
        cases done
        have kind := tableKindInsert chain.emergTable flow
        rw [into] at kind
        exact ⟨shape.1,kind.trans shape.2⟩
      · cases done
    · obtain ⟨tables,found,rfl⟩ := Option.map_eq_some_iff.mp done
      exact ⟨(insertFirstKinds found).trans shape.1,shape.2⟩
  modify := by
    intro chain key priority strict actions emerg shape
    unfold chainModify
    split
    · exact ⟨shape.1,(tableKindModify _ _ _ _ _).trans shape.2⟩
    · exact ⟨by simpa [Function.comp_def] using shape.1,shape.2⟩
  delete := by
    intro chain key outPort priority strict emerg shape
    unfold chainDelete
    split
    · exact ⟨shape.1,(tableKindDelete _ _ _ _ _).trans shape.2⟩
    · exact ⟨by simpa [Function.comp_def] using shape.1,shape.2⟩
  timeout := by
    intro chain now shape
    exact ⟨by simpa [chainTimeout,Function.comp_def] using shape.1,shape.2⟩

theorem shapeReachable {chain : SwChain} (reach : ChainReachable chain) :
    ∃ t2 tl el, chain.tables = [.hash2 t2,.linear tl] ∧ chain.emergTable = .linear el := by
  obtain ⟨kinds,emergKind⟩ := invariantReachable (shapeInvariant fun _ => True) (fun _ _ => trivial) ⟨rfl,rfl⟩ reach
  obtain ⟨tables,emergTable⟩ := chain
  cases emergTable with
  | hash th => cases emergKind
  | hash2 t2 => cases emergKind
  | linear el =>
    rcases tables with _ | ⟨t0,_ | ⟨t1,_ | ⟨t,rest⟩⟩⟩
    · simp [chainCreate] at kinds
    · simp [chainCreate] at kinds
    · cases t0 <;> cases t1 <;> simp [tableKind,chainCreate] at kinds
      exact ⟨_,_,el,rfl,rfl⟩
    · simp [chainCreate] at kinds

end Shape

end OpenFlow.Entries
