import OpenFlow.Entries

/-! The sample vendor extension of udatapath/private-msg.c, and what emergency flow protection does to the
chain. -/
namespace OpenFlow.Protection
open Actions Slots TableHash TableLinear Chain FlowMod ChainRules Store Iterate Select Entries StepSystem

def privateoptProtocolStatsRequest : UInt16 := 0x0001
def privateoptProtocolStatsReply : UInt16 := 0x0002
def privateoptEmergFlowProtection : UInt16 := 0x0003
def privateoptEmergFlowRestoration : UInt16 := 0x0004

/- sizeof (struct private_vxhdr): the ofp_header and the vendor id. -/
def privateVxhdrLen : Nat := 12
def einval : Int := 22

/- The key flush_working and do_protection build: zero but for OFPFW_ALL. -/
def flushKey : SwFlowKey :=
  ⟨⟨0,0,0,0,0,0,0,Vector.replicate 6 0,Vector.replicate 6 0,0,0,0,Vector.replicate 3 0⟩,ofpfwAll,0,0⟩

/- chain_delete of every non-emergency flow, to any port; the count is dropped. -/
def flushWorking (chain : SwChain) : SwChain := (chainDelete chain flushKey ofppNone 0 false false).2

/- The entry protection_callback builds: flow_alloc's zeroed entry, the key through flow_fill_match and
flow_extract_match, the priority and send_flow_rem of the emergency flow, no timeouts, and flow_setup_actions
at time `now`. -/
def protectionCopy (now : UInt64) (flow : SwFlow) : SwFlow :=
  { key := flowExtractMatch (flowFillMatch flow.key.flow flow.key.wildcards)
    cookie := 0
    priority := flow.priority
    idleTimeout := ofpFlowPermanent
    hardTimeout := ofpFlowPermanent
    used := now
    created := now
    packetCount := 0
    byteCount := 0
    reason := 0
    sendFlowRem := flow.sendFlowRem
    emergFlow := 0
    actions := flow.actions
    serial := 0 }

/- A refused copy returns chain_insert's error, which stops the iteration. -/
def protectionCallback (now : UInt64) : Callback SwChain := fun chain flow =>
  match chainInsert chain (protectionCopy now flow) false with
  | some chain => (chain,false)
  | none => (chain,true)

def doProtection (now : UInt64) (chain : SwChain) : SwChain :=
  (tableIterate (protectionCallback now) chain.emergTable flushKey ofppNone .start chain).state

/- private_recv_msg: the error it returns, and the chain after the message. -/
def privateRecvMsg (chain : SwChain) (msg : List UInt8) (now : UInt64) : Int × SwChain :=
  let pvoType := BigEndian.get16 msg privateVxhdrLen
  if pvoType = privateoptProtocolStatsRequest ∨ pvoType = privateoptProtocolStatsReply then (0,chain)
  else if pvoType = privateoptEmergFlowProtection then (0,doProtection now (flushWorking chain))
  else if pvoType = privateoptEmergFlowRestoration then (0,chain)
  else (-einval,chain)

/- An entry without the serial the linear table numbers its entries by. -/
def clearSerial (flow : SwFlow) : SwFlow := { flow with serial := 0 }

section Flush

theorem flushKeyAll : flushKey = flowExtractMatch matchAll := by decide

theorem allWildMatch (a b : Flow) (w : UInt32) : flowFieldsMatch a b (ofpfwAll ||| w) 0 0 = true := by
  have every : wild ofpfwAll ofpfwInPort = true ∧ wild ofpfwAll ofpfwDlVlan = true ∧
      wild ofpfwAll ofpfwDlVlanPcp = true ∧ wild ofpfwAll ofpfwDlSrc = true ∧ wild ofpfwAll ofpfwDlDst = true ∧
      wild ofpfwAll ofpfwDlType = true ∧ wild ofpfwAll ofpfwNwTos = true ∧ wild ofpfwAll ofpfwNwProto = true ∧
      wild ofpfwAll ofpfwTpSrc = true ∧ wild ofpfwAll ofpfwTpDst = true := by decide
  obtain ⟨inPort,dlVlan,dlVlanPcp,dlSrc,dlDst,dlType,nwTos,nwProto,tpSrc,tpDst⟩ := every
  simp [flowFieldsMatch,wildOr,inPort,dlVlan,dlVlanPcp,dlSrc,dlDst,dlType,nwTos,nwProto,tpSrc,tpDst]

theorem flushSelects (flow : SwFlow) : deleteSelected flushKey ofppNone flow = true := by
  have all := allWildMatch flow.key.flow flushKey.flow 0
  rw [UInt32.or_zero] at all
  show (flowFieldsMatch flow.key.flow flushKey.flow ofpfwAll 0 0 && flowHasOutPort flow ofppNone) = true
  simp [all,flowHasOutPort]

theorem iterSelects (flow : SwFlow) : (flowMatches2wild flushKey flow.key && flowHasOutPort flow ofppNone) = true := by
  have all := allWildMatch flushKey.flow flow.key.flow flow.key.wildcards
  show (flowFieldsMatch flushKey.flow flow.key.flow (ofpfwAll ||| flow.key.wildcards) (0 &&& flow.key.nwSrcMask)
    (0 &&& flow.key.nwDstMask) && flowHasOutPort flow ofppNone) = true
  simp [UInt32.zero_and,all,flowHasOutPort]

/- The OFPFC_DELETE of every flow that a controller can send. -/
def deleteAll : OfpFlowMod := flowModOf ofpfcDelete matchAll 0

theorem flushWorkingDelete (chain : SwChain) : flushWorking chain = chainStep chain (.flowMod deleteAll 0) := by
  rw [flushWorking,flushKeyAll]
  rfl

theorem flushedReachable {chain : SwChain} (reach : ChainReachable chain) : ChainReachable (flushWorking chain) := by
  rw [flushWorkingDelete]
  exact Reachable.step _ reach

theorem flushEmpties {chain : SwChain} (reach : ChainReachable chain) :
    chainStored (flushWorking chain) = [] ∧ (flushWorking chain).emergTable = chain.emergTable := by
  obtain ⟨-,left,emerg,-⟩ := nonStrictSelection reach matchAll ofppNone 0 []
  rw [← flushKeyAll] at left emerg
  refine ⟨?_,emerg⟩
  rw [flushWorking,left,List.filter_eq_nil_iff]
  intro flow _
  simp [flushSelects flow]

end Flush

theorem doProtectionFeed (now : UInt64) {chain : SwChain} {el : SwTableLinear} (emerg : chain.emergTable = .linear el) :
    doProtection now chain = feedUntil (protectionCallback now) chain (linearIterOrder el) := by
  have all : (linearIterOrder el).filter (fun flow => flowMatches2wild flushKey flow.key && flowHasOutPort flow ofppNone) =
      linearIterOrder el :=
    List.filter_eq_self.mpr fun flow _ => iterSelects flow
  rw [doProtection,emerg,← all]
  exact tableLinearIterateUntil _ el flushKey ofppNone chain

section Insert

/- A hash table while copies go in: each flow exact, and in the bucket its key hashes to. -/
structure HashWorking (th : SwTableHash) : Prop where
  placed : Placed th
  exact : HashKeys ExactKey th

/- The working tables while copies go in. -/
structure Working (t2 : SwTableHash2) (tl : SwTableLinear) : Prop where
  sub0 : HashWorking t2.subtable0
  sub1 : HashWorking t2.subtable1
  count : tl.nFlows = tl.flows.length
  capacity : tl.maxFlows = tableLinearMaxFlows

variable {c : SwFlow} (ok : EntryOk c)
include ok

theorem hashInsertFresh {th : SwTableHash} (good : HashWorking th) (entries : ∀ g ∈ tableHashStored th, EntryOk g)
    (fresh : ∀ g ∈ tableHashStored th, sameEntry g c = false) :
    tableHashInsert th c = (false,th) ∨
      ∃ th', tableHashInsert th c = (true,th') ∧ HashWorking th' ∧ (tableHashStored th').Perm (c :: tableHashStored th) := by
  obtain ⟨m,normal⟩ := ok.normalized
  have pad : c.key.flow.pad = zeroPad := by rw [← normal]; rfl
  have keys : c.key.wildcards = 0 → ExactKey c.key := by
    intro noWild
    rw [← normal] at noWild ⊢
    exact ⟨noWild,flowExtractMatchMasks m noWild⟩
  by_cases wildcarded : c.key.wildcards ≠ 0
  · exact .inl (by simp [tableHashInsert,wildcarded])
  have noWild : c.key.wildcards = 0 := not_not.mp wildcarded
  have placedNew := placedInsert good.placed pad
  have keysNew := hashKeysInsert good.exact keys
  cases slot : th.buckets (findBucket th c.key) with
  | none =>
    have took : tableHashInsert th c =
        (true,{ setBucket th (findBucket th c.key) (some c) with nFlows := th.nFlows + 1 }) := by
      simp [tableHashInsert,noWild,slot]
    rw [took] at placedNew keysNew
    exact .inr ⟨_,took,⟨placedNew,keysNew⟩,contentsFill slot c List.nodup_range (findBucketMem th c.key)⟩
  | some old =>
    have stored : old ∈ tableHashStored th := List.mem_filterMap.mpr ⟨_,findBucketMem th c.key,slot⟩
    have oldExact : ExactKey old.key := good.exact _ _ slot
    by_cases sameFlow : old.key.flow = c.key.flow
    · -- the stored flow would be of the entry's rule
      have oldTop := (entries old stored).exact oldExact.1
      have newTop := ok.exact noWild
      have same : sameEntry old c = true := by
        simp [sameEntry,oldTop,newTop,oldExact.1,noWild,flowMatches2wild,sameFlow,flowFieldsMatchRefl]
      rw [fresh old stored] at same
      cases same
    · exact .inl (by simp [tableHashInsert,noWild,slot,sameFlow])

theorem hash2InsertFresh {t2 : SwTableHash2} (good0 : HashWorking t2.subtable0) (good1 : HashWorking t2.subtable1)
    (entries : ∀ g ∈ tableStored (.hash2 t2), EntryOk g) (fresh : ∀ g ∈ tableStored (.hash2 t2), sameEntry g c = false) :
    tableHash2Insert t2 c = (false,t2) ∨
      ∃ t2', tableHash2Insert t2 c = (true,t2') ∧ HashWorking t2'.subtable0 ∧ HashWorking t2'.subtable1 ∧
        (tableStored (.hash2 t2')).Perm (c :: tableStored (.hash2 t2)) := by
  have in0 : ∀ g ∈ tableHashStored t2.subtable0, g ∈ tableStored (.hash2 t2) := fun g mem => List.mem_append_left _ mem
  have in1 : ∀ g ∈ tableHashStored t2.subtable1, g ∈ tableStored (.hash2 t2) := fun g mem => List.mem_append_right _ mem
  rcases hashInsertFresh ok good0 (fun g mem => entries g (in0 g mem)) (fun g mem => fresh g (in0 g mem)) with
    refused0 | ⟨sub0,took0,good0',perm0⟩
  · -- subtable 0 refused; subtable 1 is tried
    rcases hashInsertFresh ok good1 (fun g mem => entries g (in1 g mem)) (fun g mem => fresh g (in1 g mem)) with
      refused1 | ⟨sub1,took1,good1',perm1⟩
    · exact .inl (by simp [tableHash2Insert,refused0,refused1])
    · refine .inr ⟨{ t2 with subtable1 := sub1 },by simp [tableHash2Insert,refused0,took1],good0,good1',?_⟩
      exact (perm1.append_left _).trans List.perm_middle
  · exact .inr ⟨{ t2 with subtable0 := sub0 },by simp [tableHash2Insert,took0],good0',good1,perm0.append_right _⟩

omit ok in
theorem linearInsertFresh {tl : SwTableLinear} (count : tl.nFlows = tl.flows.length) (space : tl.flows.length < tl.maxFlows)
    (fresh : ∀ g ∈ tl.flows, sameEntry g c = false) :
    ∃ tl', tableLinearInsert tl c = (true,tl') ∧ tl'.nFlows = tl'.flows.length ∧ tl'.maxFlows = tl.maxFlows ∧
      (tl'.flows.map clearSerial).Perm (clearSerial c :: tl.flows.map clearSerial) := by
  rcases scanInsertCases c tl.flows with ⟨pre,f,post,split,same,-,-⟩ | ⟨before,after,split,-,-,scan⟩
  · rw [fresh f (by simp [split])] at same
    cases same
  · have roomy : ¬ tl.nFlows ≥ tl.maxFlows := by omega
    refine ⟨{ tl with
        nFlows := tl.nFlows + 1
        flows := before ++ { c with serial := tl.nextSerial } :: after
        iterFlows := tl.nextSerial :: tl.iterFlows
        nextSerial := tl.nextSerial + 1 },by simp only [tableLinearInsert,scan,roomy,if_false],?_,rfl,?_⟩
    · simp only [count,split,List.length_append,List.length_cons]
      omega
    · simp only [split,List.map_append,List.map_cons]
      exact List.perm_middle

theorem insertFresh {t2 : SwTableHash2} {tl : SwTableLinear} (working : Working t2 tl)
    (entries : ∀ g ∈ tableStored (.hash2 t2), EntryOk g)
    (fresh : ∀ g ∈ tableStored (.hash2 t2) ++ tl.flows, sameEntry g c = false) (space : tl.flows.length < tableLinearMaxFlows) :
    ∃ t2' tl', insertFirst [.hash2 t2,.linear tl] c = some [.hash2 t2',.linear tl'] ∧ Working t2' tl' ∧
      ((tableStored (.hash2 t2') ++ tl'.flows).map clearSerial).Perm
        (clearSerial c :: (tableStored (.hash2 t2) ++ tl.flows).map clearSerial) := by
  rcases hash2InsertFresh ok working.sub0 working.sub1 entries fun g mem => fresh g (List.mem_append_left _ mem) with
    refused | ⟨t2',took,good0,good1,perm⟩
  · obtain ⟨tl',took',count,max,perm⟩ := linearInsertFresh working.count (working.capacity ▸ space)
      fun g mem => fresh g (List.mem_append_right _ mem)
    refine ⟨t2,tl',by simp [insertFirst,SwTable.insert,refused,took'],⟨working.sub0,working.sub1,count,max.trans working.capacity⟩,?_⟩
    simp only [List.map_append]
    exact (perm.append_left _).trans List.perm_middle
  · refine ⟨t2',tl,by simp [insertFirst,SwTable.insert,took],⟨good0,good1,working.count,working.capacity⟩,?_⟩
    simp only [List.map_append]
    exact (perm.map clearSerial).append_right _

end Insert

section Run
variable (now : UInt64)

theorem copyKey {e : SwFlow} (normal : Normalized e.key) : (protectionCopy now e).key = e.key :=
  fillNormalized normal

theorem copyOk {e : SwFlow} (ok : EntryOk e) : EntryOk (protectionCopy now e) :=
  ⟨⟨_,rfl⟩,fun exact => ok.exact (copyKey now ok.normalized ▸ exact)⟩

theorem sameEntryCopy {e e' : SwFlow} (normal : Normalized e.key) (normal' : Normalized e'.key) :
    sameEntry (protectionCopy now e) (protectionCopy now e') = sameEntry e e' := by
  rw [sameEntry,sameEntry,copyKey now normal,copyKey now normal']
  rfl

theorem protectionRun : ∀ (todo done : List SwFlow) (chain : SwChain) {t2 : SwTableHash2} {tl : SwTableLinear},
    chain.tables = [.hash2 t2,.linear tl] → Working t2 tl →
    ((tableStored (.hash2 t2) ++ tl.flows).map clearSerial).Perm (done.map (protectionCopy now)) →
    (∀ e ∈ done ++ todo, EntryOk e) → (done ++ todo).Pairwise (fun f g => sameEntry f g = false) →
    (done ++ todo).length ≤ tableLinearMaxFlows →
    (feedUntil (protectionCallback now) chain todo).emergTable = chain.emergTable ∧
      ((chainStored (feedUntil (protectionCallback now) chain todo)).map clearSerial).Perm
        ((done ++ todo).map (protectionCopy now))
  | [], done, chain, t2, tl, tables, _, stored, _, _, _ => by
    refine ⟨rfl,?_⟩
    simpa [feedUntil,chainStored,tables,tableStored] using stored
  | e :: todo, done, chain, t2, tl, tables, working, stored, entries, distinct, bound => by
    have eOk := entries e (by simp)
    have copied : ∀ g ∈ tableStored (.hash2 t2) ++ tl.flows, ∃ e' ∈ done, clearSerial g = protectionCopy now e' := by
      intro g mem
      obtain ⟨e',inDone,same⟩ := List.mem_map.mp (stored.subset (List.mem_map_of_mem mem))
      exact ⟨e',inDone,same.symm⟩
    have fresh : ∀ g ∈ tableStored (.hash2 t2) ++ tl.flows, sameEntry g (protectionCopy now e) = false := by
      intro g mem
      obtain ⟨e',inDone,same⟩ := copied g mem
      have before := (List.pairwise_append.mp distinct).2.2 e' inDone e List.mem_cons_self
      have e'Ok := entries e' (List.mem_append_left _ inDone)
      calc sameEntry g (protectionCopy now e) = sameEntry (clearSerial g) (protectionCopy now e) := rfl
        _ = sameEntry (protectionCopy now e') (protectionCopy now e) := by rw [same]
        _ = sameEntry e' e := sameEntryCopy now e'Ok.normalized eOk.normalized
        _ = false := before
    have storedOk : ∀ g ∈ tableStored (.hash2 t2), EntryOk g := by
      intro g mem
      obtain ⟨e',inDone,same⟩ := copied g (List.mem_append_left _ mem)
      have copy := copyOk now (entries e' (List.mem_append_left _ inDone))
      rw [← same] at copy
      exact ⟨copy.normalized,copy.exact⟩
    have space : tl.flows.length < tableLinearMaxFlows := by
      have counted := stored.length_eq
      simp only [List.length_map,List.length_append,List.length_cons] at counted bound
      omega
    obtain ⟨t2',tl',took,working',perm⟩ := insertFresh (copyOk now eOk) working storedOk fresh space
    have step : protectionCallback now chain e = ({ chain with tables := [.hash2 t2',.linear tl'] },false) := by
      simp [protectionCallback,chainInsert,tables,took]
    have rejoin : done ++ e :: todo = (done ++ [e]) ++ todo := by simp
    rw [rejoin] at entries distinct bound ⊢
    have storedNext : ((tableStored (.hash2 t2') ++ tl'.flows).map clearSerial).Perm ((done ++ [e]).map (protectionCopy now)) := by
      have appended : (done ++ [e]).map (protectionCopy now) = done.map (protectionCopy now) ++ [protectionCopy now e] := by
        simp
      rw [appended]
      exact perm.trans ((stored.cons _).trans (List.perm_append_singleton _ _).symm)
    have rest := protectionRun todo (done ++ [e]) { chain with tables := [.hash2 t2',.linear tl'] } rfl working'
      storedNext entries distinct bound
    simp only [feedUntil,step,Bool.false_eq_true,if_false]
    exact rest

end Run

theorem protectionStored {chain : SwChain} (reach : ChainReachable chain) (now : UInt64) :
    (doProtection now (flushWorking chain)).emergTable = chain.emergTable ∧
      ((chainStored (doProtection now (flushWorking chain))).map clearSerial).Perm
        ((tableStored chain.emergTable).map (protectionCopy now)) := by
  have flushedReach := flushedReachable reach
  obtain ⟨empty,emergSame⟩ := flushEmpties reach
  obtain ⟨t2,tl,el,tables,emerg⟩ := shapeReachable flushedReach
  have placed := (chainPlacedReachable flushedReach).tables (.hash2 t2) (by simp [tables])
  have keys := (chainExactReachable flushedReach).tables (.hash2 t2) (by simp [tables])
  have linear : LinearTable (.linear tl) := (chainLinearReachable flushedReach).tables (.linear tl) (by simp [tables])
  have emergGood : LinearTable (.linear el) := emerg ▸ (chainLinearReachable flushedReach).emerg
  have working : Working t2 tl := ⟨⟨placed.1,keys.1⟩,⟨placed.2,keys.2⟩,linear.1.count,linear.2⟩
  have storedEmpty : tableStored (.hash2 t2) ++ tl.flows = [] := by
    simpa [chainStored,tables,tableStored] using empty
  have order := linearIterOrderPerm emergGood.1
  have symm : ∀ {f g : SwFlow}, sameEntry f g = false → sameEntry g f = false :=
    fun distinct => (sameEntrySymm _ _).trans distinct
  have entries : ∀ e ∈ [] ++ linearIterOrder el, EntryOk e := fun e mem =>
    emergGood.1.entries e (order.subset (by simpa using mem))
  have distinct : ([] ++ linearIterOrder el).Pairwise fun f g => sameEntry f g = false := by
    simpa using (order.pairwise_iff symm).mpr emergGood.1.distinct
  have bound : ([] ++ linearIterOrder el).length ≤ tableLinearMaxFlows := by
    simpa [order.length_eq,emergGood.2] using emergGood.1.room
  obtain ⟨sameEmerg,copies⟩ := protectionRun now (linearIterOrder el) [] _ tables working (by simp [storedEmpty])
    entries distinct bound
  rw [doProtectionFeed now emerg]
  refine ⟨sameEmerg.trans emergSame,?_⟩
  rw [← emergSame,emerg]
  exact copies.trans (by simpa [tableStored] using order.map (protectionCopy now))

theorem protectionCopiesEmergency {chain : SwChain} (reach : ChainReachable chain) (msg : List UInt8) (now : UInt64)
    (protection : BigEndian.get16 msg privateVxhdrLen = privateoptEmergFlowProtection) :
    (privateRecvMsg chain msg now).1 = 0 ∧
      (privateRecvMsg chain msg now).2.emergTable = chain.emergTable ∧
      ((chainStored (privateRecvMsg chain msg now).2).map clearSerial).Perm
        ((tableStored chain.emergTable).map (protectionCopy now)) ∧
      ∀ e ∈ tableStored chain.emergTable,
        (protectionCopy now e).key = e.key ∧ (protectionCopy now e).priority = e.priority ∧
        (protectionCopy now e).actions = e.actions ∧ (protectionCopy now e).idleTimeout = ofpFlowPermanent ∧
        (protectionCopy now e).hardTimeout = ofpFlowPermanent ∧ (protectionCopy now e).emergFlow = 0 := by
  have notStats : ¬ (privateoptEmergFlowProtection = privateoptProtocolStatsRequest ∨
      privateoptEmergFlowProtection = privateoptProtocolStatsReply) := by decide
  have recv : privateRecvMsg chain msg now = (0,doProtection now (flushWorking chain)) := by
    simp only [privateRecvMsg,protection,notStats,if_false,if_true]
  obtain ⟨sameEmerg,copies⟩ := protectionStored reach now
  rw [recv]
  refine ⟨rfl,sameEmerg,copies,?_⟩
  obtain ⟨-,-,el,-,emerg⟩ := shapeReachable reach
  have emergGood : LinearTable (.linear el) := emerg ▸ (chainLinearReachable reach).emerg
  intro e mem
  rw [emerg] at mem
  exact ⟨copyKey now (emergGood.1.entries e mem).normalized,rfl,rfl,rfl,rfl,rfl⟩

/- A chain with one emergency flow, on which the protection message is handled. -/
def emergMod : OfpFlowMod := { flowModOf ofpfcAdd matchAll 0x8000 with flags := ofpffEmerg }

def protectionMsg : List UInt8 := [1,4,0,16,0,0,0,0,0,0xac,0xde,0x48,0,3,0,0]

theorem protectionCopiesOneFlow :
    ChainReachable (run chainStep chainCreate [.flowMod emergMod 0]) ∧
      BigEndian.get16 protectionMsg privateVxhdrLen = privateoptEmergFlowProtection ∧
      (privateRecvMsg (run chainStep chainCreate [.flowMod emergMod 0]) protectionMsg 5).1 = 0 ∧
      (privateRecvMsg (run chainStep chainCreate [.flowMod emergMod 0]) protectionMsg 5).2.emergTable =
        (run chainStep chainCreate [.flowMod emergMod 0]).emergTable ∧
      ((chainStored (privateRecvMsg (run chainStep chainCreate [.flowMod emergMod 0]) protectionMsg 5).2).map clearSerial).Perm
        ((tableStored (run chainStep chainCreate [.flowMod emergMod 0]).emergTable).map (protectionCopy 5)) := by
  have reach := reachableRun chainStep chainCreate [.flowMod emergMod 0]
  have protection : BigEndian.get16 protectionMsg privateVxhdrLen = privateoptEmergFlowProtection := by decide
  obtain ⟨ok,emerg,copies,-⟩ := protectionCopiesEmergency reach protectionMsg 5 protection
  exact ⟨reach,protection,ok,emerg,copies⟩

end OpenFlow.Protection
