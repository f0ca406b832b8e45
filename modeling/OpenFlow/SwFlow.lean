import OpenFlow.Actions

/-! Flow-table entries (struct sw_flow, udatapath/switch-flow.{h,c}). -/
namespace OpenFlow
open Actions WhileLoop

def ofpFlowPermanent : UInt16 := 0
def ofprrIdleTimeout : UInt8 := 0
def ofprrHardTimeout : UInt8 := 1
def ofprrDelete : UInt8 := 2

structure SwFlow where
  key : SwFlowKey
  cookie : UInt64
  priority : UInt16
  idleTimeout : UInt16
  hardTimeout : UInt16
  used : UInt64
  created : UInt64
  packetCount : UInt64
  byteCount : UInt64
  reason : UInt8
  sendFlowRem : UInt8
  emergFlow : UInt8
  actions : List UInt8
  serial : Nat
  deriving DecidableEq, Repr

/- flow_timeout: the reason it records when the entry has expired at `now`. -/
def flowTimeout (now : UInt64) (flow : SwFlow) : Option UInt8 :=
  if flow.idleTimeout ≠ ofpFlowPermanent ∧ now > flow.used + flow.idleTimeout.toUInt64 * 1000 then
    some ofprrIdleTimeout
  else if flow.hardTimeout ≠ ofpFlowPermanent ∧ now > flow.created + flow.hardTimeout.toUInt64 * 1000 then
    some ofprrHardTimeout
  else none

/- flow_replace_acts, with the allocation assumed to succeed. -/
def flowReplaceActs (flow : SwFlow) (actions : List UInt8) : SwFlow := { flow with actions }

/- flow_used: the entry has just matched a packet of `size` bytes, at `now` ms. -/
def flowUsed (now : UInt64) (size : Nat) (flow : SwFlow) : SwFlow :=
  { flow with used := now,packetCount := flow.packetCount + 1,byteCount := flow.byteCount + size.toUInt64 }

/- The loop of flow_has_out_port. `found` stands for its early `return 1`. -/
structure OutPortScan where
  cursor : Cursor
  found : Bool

def outPortScanLive (s : OutPortScan) : Bool := s.cursor.live && !s.found

def outPortScanBody (actions : List UInt8) (outPort : UInt16) (s : OutPortScan) : OutPortScan :=
  let p := s.cursor.off
  if actionType actions p = ofpatOutput ∧ outputPort actions p = outPort then { s with found := true }
  else { s with cursor := s.cursor.advance (actionLen actions) }

/- Fuel `actions_len + 1` covers every list whose actions tile it; a list that does not tile (only unvalidated
ones) makes the C loop read past its end. -/
def flowHasOutPort (flow : SwFlow) (outPort : UInt16) : Bool :=
  if outPort = ofppNone then true
  else
    match run outPortScanLive (outPortScanBody flow.actions outPort) (flow.actions.length + 1)
        ⟨⟨0,flow.actions.length⟩,false⟩ with
    | some s => s.found
    | none => false

/- An output action to `outPort` at offset `o`. -/
def outputsTo (actions : List UInt8) (outPort : UInt16) (o : Nat) : Bool :=
  actionType actions o == ofpatOutput && outputPort actions o == outPort

theorem outPortScanTiles {actions : List UInt8} {outPort : UInt16} {off rem : Nat} {offs : List Nat}
    (tiles : Tiles (actionLen actions) off rem offs) {fuel : Nat} (enough : offs.length < fuel) :
    (run outPortScanLive (outPortScanBody actions outPort) fuel ⟨⟨off,rem⟩,false⟩).map (·.found) =
      some (offs.any (outputsTo actions outPort)) := by
  induction tiles generalizing fuel with
  | done off =>
    obtain ⟨fuel,rfl⟩ : ∃ f, fuel = f + 1 := ⟨fuel - 1,by simp at enough; omega⟩
    simp [run,outPortScanLive,Cursor.live]
  | next pos fits rest ih =>
    rename_i off rem offs
    obtain ⟨fuel,rfl⟩ : ∃ f, fuel = f + 1 := ⟨fuel - 1,by simp at enough; omega⟩
    have live : outPortScanLive ⟨⟨off,rem⟩,false⟩ = true := by
      simp [outPortScanLive,Cursor.live]
      omega
    simp only [run,live,if_true,outPortScanBody,List.any_cons]
    by_cases hit : actionType actions off = ofpatOutput ∧ outputPort actions off = outPort
    · -- the early return: the next test sees `found` and stops
      obtain ⟨fuel,rfl⟩ : ∃ f, fuel = f + 1 := ⟨fuel - 1,by simp at enough; omega⟩
      simp [hit,run,outPortScanLive,outputsTo]
    · have miss : outputsTo actions outPort off = false := by
        simpa [outputsTo] using hit
      simp only [hit,if_false,miss,Bool.false_or]
      exact ih (by simp at enough; omega)

end OpenFlow
