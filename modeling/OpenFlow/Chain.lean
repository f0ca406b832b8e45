import OpenFlow.TableHash
import OpenFlow.TableLinear

/-! The chain of flow tables (udatapath/chain.c). -/
namespace OpenFlow.Chain
open TableHash TableLinear

inductive SwTable where
  | hash (t : SwTableHash)
  | hash2 (t : SwTableHash2)
  | linear (t : SwTableLinear)

namespace SwTable

def lookup : SwTable → SwFlowKey → Option SwFlow
  | hash t, key => tableHashLookup t key
  | hash2 t, key => tableHash2Lookup t key
  | linear t, key => tableLinearLookup t key

def insert : SwTable → SwFlow → Bool × SwTable
  | hash t, flow => let (ok,t) := tableHashInsert t flow; (ok,hash t)
  | hash2 t, flow => let (ok,t) := tableHash2Insert t flow; (ok,hash2 t)
  | linear t, flow => let (ok,t) := tableLinearInsert t flow; (ok,linear t)

def modify : SwTable → SwFlowKey → UInt16 → Bool → List UInt8 → Nat × SwTable
  | hash t, key, priority, strict, actions =>
    let (n,t) := tableHashModify t key priority strict actions; (n,hash t)
  | hash2 t, key, priority, strict, actions =>
    let (n,t) := tableHash2Modify t key priority strict actions; (n,hash2 t)
  | linear t, key, priority, strict, actions =>
    let (n,t) := tableLinearModify t key priority strict actions; (n,linear t)

def hasConflict : SwTable → SwFlowKey → UInt16 → Bool → Bool
  | hash t, key, priority, strict => tableHashHasConflict t key priority strict
  | hash2 t, key, priority, strict => tableHash2HasConflict t key priority strict
  | linear t, key, priority, strict => tableLinearHasConflict t key priority strict

/- The hash tables ignore `priority`, as table_hash_delete marks it UNUSED. -/
def delete : SwTable → SwFlowKey → UInt16 → UInt16 → Bool → List SwFlow × SwTable
  | hash t, key, outPort, _, strict => let (gone,t) := tableHashDelete t key outPort strict; (gone,hash t)
  | hash2 t, key, outPort, _, strict => let (gone,t) := tableHash2Delete t key outPort strict; (gone,hash2 t)
  | linear t, key, outPort, priority, strict =>
    let (gone,t) := tableLinearDelete t key outPort priority strict; (gone,linear t)

def timeout : SwTable → UInt64 → List SwFlow × SwTable
  | hash t, now => let (gone,t) := tableHashTimeout t now; (gone,hash t)
  | hash2 t, now => let (gone,t) := tableHash2Timeout t now; (gone,hash2 t)
  | linear t, now => let (gone,t) := tableLinearTimeout t now; (gone,linear t)

/- The flow a table holds at an index: bucket `i` of subtable `sub` for the hash tables, position `i` of the
`flows` list for the linear table. -/
def flowAt : SwTable → Nat → Nat → Option SwFlow
  | hash t, 0, i => t.buckets i
  | hash2 t, 0, i => t.subtable0.buckets i
  | hash2 t, 1, i => t.subtable1.buckets i
  | linear t, 0, i => t.flows[i]?
  | _, _, _ => none

end SwTable

/- chain.h -/
def chainMaxTables : Nat := 4
def tableLinearMaxFlows : Nat := 100
def tableHashMaxFlows : UInt32 := 65536

structure SwChain where
  tables : List SwTable
  emergTable : SwTable

/- chain_create in a build without a hardware table: the double-hashing table, then the linear table, and a
linear table for emergency flows. -/
def chainCreate : SwChain :=
  ⟨[.hash2 (tableHash2Create 0x1EDC6F41 tableHashMaxFlows 0x741B8CD7 tableHashMaxFlows),
    .linear (tableLinearCreate tableLinearMaxFlows)],
    .linear (tableLinearCreate tableLinearMaxFlows)⟩

/- A place where a chain stores a flow: a table of the chain, and an index in it. -/
structure Slot where
  table : Nat
  sub : Nat
  index : Nat
  deriving DecidableEq, Repr

def SwChain.flowAt (chain : SwChain) (slot : Slot) : Option SwFlow :=
  chain.tables[slot.table]?.bind fun t => t.flowAt slot.sub slot.index

def lookupFirst : List SwTable → SwFlowKey → Option SwFlow
  | [], _ => none
  | t :: ts, key => (t.lookup key).or (lookupFirst ts key)

def chainLookup (chain : SwChain) (key : SwFlowKey) (emerg : Bool) : Option SwFlow :=
  if emerg then chain.emergTable.lookup key else lookupFirst chain.tables key

/- Writing through the pointer a lookup returned: `f` changes the entry that the lookup of `key` finds, and
nothing else. -/
def tableHashTouch (th : SwTableHash) (key : SwFlowKey) (f : SwFlow → SwFlow) : SwTableHash :=
  match tableHashLookup th key with
  | some flow => setBucket th (findBucket th key) (some (f flow))
  | none => th

def tableLinearTouch (flows : List SwFlow) (key : SwFlowKey) (f : SwFlow → SwFlow) : List SwFlow :=
  match flows with
  | [] => []
  | flow :: rest => if flowMatches1wild key flow.key then f flow :: rest else flow :: tableLinearTouch rest key f

def SwTable.touch (t : SwTable) (key : SwFlowKey) (f : SwFlow → SwFlow) : SwTable :=
  match t with
  | hash th => hash (tableHashTouch th key f)
  | hash2 t2 =>
    if (tableHashLookup t2.subtable0 key).isSome then hash2 { t2 with subtable0 := tableHashTouch t2.subtable0 key f }
    else hash2 { t2 with subtable1 := tableHashTouch t2.subtable1 key f }
  | linear tl => linear { tl with flows := tableLinearTouch tl.flows key f }

def touchFirst (tables : List SwTable) (key : SwFlowKey) (f : SwFlow → SwFlow) : List SwTable :=
  match tables with
  | [] => []
  | t :: ts => if (t.lookup key).isSome then t.touch key f :: ts else t :: touchFirst ts key f

section Touch
variable {key : SwFlowKey} {g : SwFlow → SwFlow} (keeps : ∀ f, (g f).key = f.key)
include keeps

theorem tableHashLookupTouch (th : SwTableHash) :
    tableHashLookup (tableHashTouch th key g) key = (tableHashLookup th key).map g := by
  unfold tableHashTouch
  cases found : tableHashLookup th key with
  | none => simpa using found
  | some flow =>
    have hit : th.buckets (findBucket th key) = some flow ∧ flow.key.flow = key.flow := by
      simp only [tableHashLookup] at found
      cases inBucket : th.buckets (findBucket th key) with
      | none => simp [inBucket] at found
      | some stored =>
        by_cases same : stored.key.flow = key.flow
        · simp only [inBucket,same] at found
          simp at found
          subst found
          exact ⟨rfl,same⟩
        · simp [inBucket,same] at found
    have moved : findBucket (setBucket th (findBucket th key) (some (g flow))) key = findBucket th key := rfl
    rw [tableHashLookup,moved]
    simp [setBucket,hit.2,keeps]

theorem tableLinearLookupTouch (flows : List SwFlow) :
    (tableLinearTouch flows key g).find? (fun flow => flowMatches1wild key flow.key) =
      (flows.find? fun flow => flowMatches1wild key flow.key).map g := by
  induction flows with
  | nil => rfl
  | cons flow rest ih =>
    by_cases hit : flowMatches1wild key flow.key = true
    · simp [tableLinearTouch,hit,keeps]
    · simp [tableLinearTouch,hit,ih]

theorem lookupTouch (t : SwTable) : (t.touch key g).lookup key = (t.lookup key).map g := by
  cases t with
  | hash th => exact tableHashLookupTouch keeps th
  | hash2 t2 =>
    simp only [SwTable.touch,SwTable.lookup,tableHash2Lookup]
    cases first : tableHashLookup t2.subtable0 key with
    | some flow => simp [tableHashLookupTouch keeps,first]
    | none => simp [tableHashLookupTouch keeps,first]
  | linear tl => exact tableLinearLookupTouch keeps tl.flows

theorem lookupFirstTouch (tables : List SwTable) :
    lookupFirst (touchFirst tables key g) key = (lookupFirst tables key).map g := by
  induction tables with
  | nil => rfl
  | cons t ts ih =>
    cases found : t.lookup key with
    | some flow => simp [touchFirst,lookupFirst,found,lookupTouch keeps]
    | none => simp [touchFirst,lookupFirst,found,ih]

end Touch

/- The first table that accepts the flow keeps it; the tables after it are not consulted. -/
def insertFirst : List SwTable → SwFlow → Option (List SwTable)
  | [], _ => none
  | t :: ts, flow =>
    match t.insert flow with
    | (true,t) => some (t :: ts)
    | (false,_) => (insertFirst ts flow).map (t :: ·)

/- `none` is -ENOBUFS: no table accepted the flow, and the chain is unchanged. -/
def chainInsert (chain : SwChain) (flow : SwFlow) (emerg : Bool) : Option SwChain :=
  if emerg then
    match chain.emergTable.insert flow with
    | (true,t) => some { chain with emergTable := t }
    | (false,_) => none
  else (insertFirst chain.tables flow).map fun tables => { chain with tables }

def chainModify (chain : SwChain) (key : SwFlowKey) (priority : UInt16) (strict : Bool)
    (actions : List UInt8) (emerg : Bool) : Nat × SwChain :=
  if emerg then
    let (n,t) := chain.emergTable.modify key priority strict actions
    (n,{ chain with emergTable := t })
  else
    let results := chain.tables.map fun t => t.modify key priority strict actions
    ((results.map Prod.fst).sum,{ chain with tables := results.map Prod.snd })

def chainHasConflict (chain : SwChain) (key : SwFlowKey) (priority : UInt16) (strict : Bool) : Bool :=
  chain.tables.any fun t => t.hasConflict key priority strict

/- Returns the deleted flows; chain_delete returns their number. -/
def chainDelete (chain : SwChain) (key : SwFlowKey) (outPort priority : UInt16) (strict emerg : Bool) :
    List SwFlow × SwChain :=
  if emerg then
    let (gone,t) := chain.emergTable.delete key outPort priority strict
    (gone,{ chain with emergTable := t })
  else
    let results := chain.tables.map fun t => t.delete key outPort priority strict
    ((results.map Prod.fst).flatten,{ chain with tables := results.map Prod.snd })

/- The emergency table never times out its flows. -/
def chainTimeout (chain : SwChain) (now : UInt64) : List SwFlow × SwChain :=
  let results := chain.tables.map fun t => t.timeout now
  ((results.map Prod.fst).flatten,{ chain with tables := results.map Prod.snd })

end OpenFlow.Chain
