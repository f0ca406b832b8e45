import OpenFlow.SwFlow

/-! The linear table of udatapath/table-linear.c. -/
namespace OpenFlow.TableLinear

structure SwTableLinear where
  maxFlows : Nat
  nFlows : Nat
  flows : List SwFlow
  iterFlows : List Nat
  nextSerial : Nat

def tableLinearCreate (maxFlows : Nat) : SwTableLinear := ⟨maxFlows,0,[],[],0⟩

def tableLinearLookup (tl : SwTableLinear) (key : SwFlowKey) : Option SwFlow :=
  tl.flows.find? fun flow => flowMatches1wild key flow.key

/- Where the loop of table_linear_insert leaves the list: an entry of the same priority, wildcards and fields
replaced in place, or the position before the first entry of lower priority (the end of the list if there is
none). -/
inductive Scan where
  | replaced (flows : List SwFlow)
  | stopped (before after : List SwFlow)

def sameEntry (f flow : SwFlow) : Bool :=
  f.priority == flow.priority && f.key.wildcards == flow.key.wildcards && flowMatches2wild f.key flow.key

def scanInsert (flow : SwFlow) : List SwFlow → Scan
  | [] => .stopped [] []
  | f :: rest =>
    if sameEntry f flow then .replaced ({ flow with serial := f.serial } :: rest)
    else if f.priority < flow.priority then .stopped [] (f :: rest)
    else
      match scanInsert flow rest with
      | .replaced flows => .replaced (f :: flows)
      | .stopped before after => .stopped (f :: before) after

def tableLinearInsert (tl : SwTableLinear) (flow : SwFlow) : Bool × SwTableLinear :=
  match scanInsert flow tl.flows with
  | .replaced flows => (true,{ tl with flows })
  | .stopped before after =>
    if tl.nFlows ≥ tl.maxFlows then (false,tl)
    else
      (true,{ tl with
        nFlows := tl.nFlows + 1
        flows := before ++ { flow with serial := tl.nextSerial } :: after
        iterFlows := tl.nextSerial :: tl.iterFlows
        nextSerial := tl.nextSerial + 1 })

def modifySelects (key : SwFlowKey) (priority : UInt16) (strict : Bool) (flow : SwFlow) : Bool :=
  flowMatchesDesc flow.key key strict && (!strict || flow.priority == priority)

def tableLinearModify (tl : SwTableLinear) (key : SwFlowKey) (priority : UInt16) (strict : Bool)
    (actions : List UInt8) : Nat × SwTableLinear :=
  ((tl.flows.filter (modifySelects key priority strict)).length,
    { tl with flows := tl.flows.map fun flow =>
        if modifySelects key priority strict flow then flowReplaceActs flow actions else flow })

def tableLinearHasConflict (tl : SwTableLinear) (key : SwFlowKey) (priority : UInt16) (strict : Bool) : Bool :=
  tl.flows.any fun flow => flowMatches2desc flow.key key strict && flow.priority == priority

def deleteSelects (key : SwFlowKey) (outPort priority : UInt16) (strict : Bool) (flow : SwFlow) : Bool :=
  flowMatchesDesc flow.key key strict && flowHasOutPort flow outPort && (!strict || flow.priority == priority)

/- Removes the selected entries from both lists; also returns them, for the OFPRR_DELETE reports of
dp_send_flow_end. -/
def tableLinearDelete (tl : SwTableLinear) (key : SwFlowKey) (outPort priority : UInt16) (strict : Bool) :
    List SwFlow × SwTableLinear :=
  let gone := tl.flows.filter (deleteSelects key outPort priority strict)
  (gone,{ tl with
    flows := tl.flows.filter fun flow => !deleteSelects key outPort priority strict flow
    iterFlows := tl.iterFlows.filter fun serial => !gone.any fun flow => flow.serial == serial
    nFlows := tl.nFlows - gone.length })

def tableLinearTimeout (tl : SwTableLinear) (now : UInt64) : List SwFlow × SwTableLinear :=
  let gone := tl.flows.filterMap fun flow => (flowTimeout now flow).map fun reason => { flow with reason }
  (gone,{ tl with
    flows := tl.flows.filter fun flow => (flowTimeout now flow).isNone
    iterFlows := tl.iterFlows.filter fun serial => !gone.any fun flow => flow.serial == serial
    nFlows := tl.nFlows - gone.length })

end OpenFlow.TableLinear
