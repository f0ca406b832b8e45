import OpenFlow.SwFlow
import OpenFlow.Crc32
import OpenFlow.Lib.Slots

/-! The exact-match tables of udatapath/table-hash.c. -/
namespace OpenFlow.TableHash
open Slots

structure SwTableHash where
  crc32 : Crc32
  nFlows : Nat
  bucketMask : UInt32
  buckets : Nat → Option SwFlow

def tableHashCreate (polynomial : UInt32) (nBuckets : UInt32) : SwTableHash :=
  ⟨crc32Init polynomial,0,nBuckets - 1,fun _ => none⟩

def findBucket (th : SwTableHash) (key : SwFlowKey) : Nat :=
  (crc32Calculate th.crc32 (flowBytes key.flow) &&& th.bucketMask).toNat

def setBucket (th : SwTableHash) (i : Nat) (v : Option SwFlow) : SwTableHash :=
  { th with buckets := Function.update th.buckets i v }

/- Every bucket of the array, in the order of `for (i = 0; i <= bucket_mask; i++)`. -/
def allBuckets (th : SwTableHash) : List Nat := List.range (th.bucketMask.toNat + 1)

def tableHashLookup (th : SwTableHash) (key : SwFlowKey) : Option SwFlow :=
  match th.buckets (findBucket th key) with
  | some flow => if !flowCompare flow.key.flow key.flow then some flow else none
  | none => none

def tableHashInsert (th : SwTableHash) (flow : SwFlow) : Bool × SwTableHash :=
  if flow.key.wildcards ≠ 0 then (false,th)
  else
    let bucket := findBucket th flow.key
    match th.buckets bucket with
    | none => (true,{ setBucket th bucket (some flow) with nFlows := th.nFlows + 1 })
    | some oldFlow =>
      if !flowCompare oldFlow.key.flow flow.key.flow then (true,setBucket th bucket (some flow))
      else (false,th)

/- Which buckets an operation on `key` visits: the one `key` hashes to when it is exact, every bucket
otherwise. -/
def visited (th : SwTableHash) (key : SwFlowKey) : List Nat :=
  if key.wildcards = 0 then [findBucket th key] else allBuckets th

def modifyAct (key : SwFlowKey) (priority : UInt16) (strict : Bool) (actions : List UInt8)
    (flow : SwFlow) : Option (Option SwFlow × SwFlow) :=
  if flowMatchesDesc flow.key key strict && (!strict || flow.priority == priority) then
    some (some (flowReplaceActs flow actions),flow)
  else none

def tableHashModify (th : SwTableHash) (key : SwFlowKey) (priority : UInt16) (strict : Bool)
    (actions : List UInt8) : Nat × SwTableHash :=
  let pass := sweep (modifyAct key priority strict actions) (visited th key) th.buckets
  (pass.2.length,{ th with buckets := pass.1 })

def tableHashHasConflict (th : SwTableHash) (key : SwFlowKey) (priority : UInt16) (strict : Bool) : Bool :=
  (visited th key).any fun i =>
    match th.buckets i with
    | some flow => flowMatches2desc flow.key key strict && flow.priority == priority
    | none => false

/- The priority argument is ignored: exact-match entries all have the highest priority. -/
def deleteAct (key : SwFlowKey) (outPort : UInt16) (strict : Bool) (flow : SwFlow) :
    Option (Option SwFlow × SwFlow) :=
  let selected :=
    if key.wildcards = 0 then !flowCompare flow.key.flow key.flow else flowMatchesDesc flow.key key strict
  if selected && flowHasOutPort flow outPort then some (none,flow) else none

/- Also returns the deleted flows, for which dp_send_flow_end reports OFPRR_DELETE. -/
def tableHashDelete (th : SwTableHash) (key : SwFlowKey) (outPort : UInt16) (strict : Bool) :
    List SwFlow × SwTableHash :=
  let pass := sweep (deleteAct key outPort strict) (visited th key) th.buckets
  (pass.2,{ th with buckets := pass.1,nFlows := th.nFlows - pass.2.length })

def timeoutAct (now : UInt64) (flow : SwFlow) : Option (Option SwFlow × SwFlow) :=
  (flowTimeout now flow).map fun reason => (none,{ flow with reason })

def tableHashTimeout (th : SwTableHash) (now : UInt64) : List SwFlow × SwTableHash :=
  let pass := sweep (timeoutAct now) (allBuckets th) th.buckets
  (pass.2,{ th with buckets := pass.1,nFlows := th.nFlows - pass.2.length })

/- struct sw_table_hash2 -/
structure SwTableHash2 where
  subtable0 : SwTableHash
  subtable1 : SwTableHash

def tableHash2Create (poly0 buckets0 poly1 buckets1 : UInt32) : SwTableHash2 :=
  ⟨tableHashCreate poly0 buckets0,tableHashCreate poly1 buckets1⟩

def tableHash2Lookup (t2 : SwTableHash2) (key : SwFlowKey) : Option SwFlow :=
  (tableHashLookup t2.subtable0 key).or (tableHashLookup t2.subtable1 key)

def tableHash2Insert (t2 : SwTableHash2) (flow : SwFlow) : Bool × SwTableHash2 :=
  match tableHashInsert t2.subtable0 flow with
  | (true,sub0) => (true,{ t2 with subtable0 := sub0 })
  | (false,_) =>
    let (ok,sub1) := tableHashInsert t2.subtable1 flow
    (ok,{ t2 with subtable1 := sub1 })

def tableHash2Modify (t2 : SwTableHash2) (key : SwFlowKey) (priority : UInt16) (strict : Bool)
    (actions : List UInt8) : Nat × SwTableHash2 :=
  let (n0,sub0) := tableHashModify t2.subtable0 key priority strict actions
  let (n1,sub1) := tableHashModify t2.subtable1 key priority strict actions
  (n0 + n1,⟨sub0,sub1⟩)

def tableHash2HasConflict (t2 : SwTableHash2) (key : SwFlowKey) (priority : UInt16) (strict : Bool) : Bool :=
  tableHashHasConflict t2.subtable0 key priority strict || tableHashHasConflict t2.subtable1 key priority strict

def tableHash2Delete (t2 : SwTableHash2) (key : SwFlowKey) (outPort : UInt16) (strict : Bool) :
    List SwFlow × SwTableHash2 :=
  let (d0,sub0) := tableHashDelete t2.subtable0 key outPort strict
  let (d1,sub1) := tableHashDelete t2.subtable1 key outPort strict
  (d0 ++ d1,⟨sub0,sub1⟩)

def tableHash2Timeout (t2 : SwTableHash2) (now : UInt64) : List SwFlow × SwTableHash2 :=
  let (d0,sub0) := tableHashTimeout t2.subtable0 now
  let (d1,sub1) := tableHashTimeout t2.subtable1 now
  (d0 ++ d1,⟨sub0,sub1⟩)

end OpenFlow.TableHash
