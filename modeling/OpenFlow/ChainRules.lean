import OpenFlow.FlowMod

/-! What the chain promises about its entries (chain.c: "Inserts 'flow' into 'chain', replacing any duplicate
flow") and about lookups, and the runs of flow-mods on which the double-hashing table breaks those promises.
-/
namespace OpenFlow.ChainRules
open Actions Chain FlowMod StepSystem

/- Two entries for one rule: equal struct flow, wildcards and priority. -/
def SameRule (f g : SwFlow) : Prop :=
  f.key.flow = g.key.flow ∧ f.key.wildcards = g.key.wildcards ∧ f.priority = g.priority

instance (f g : SwFlow) : Decidable (SameRule f g) := inferInstanceAs (Decidable (_ ∧ _ ∧ _))

def RulesUnique (chain : SwChain) : Prop :=
  ∀ a b f g, chain.flowAt a = some f → chain.flowAt b = some g → SameRule f g → a = b

/- An exact match on input port and the last byte of the source address, for a frame type that is neither IP
nor ARP. -/
def exactMatch (inPort : UInt16) (srcLast : UInt8) : OfpMatch :=
  ⟨0,inPort,#v[0,0,0,0,0,srcLast],#v[0,0,0,0,0,0],ofpVlanNone,0,0x0906,0,0,0,0,0,0⟩

def flowModOf (command : UInt16) (m : OfpMatch) (priority : UInt16) : OfpFlowMod :=
  ⟨m,0,command,ofpFlowPermanent,ofpFlowPermanent,priority,0xffffffff,ofppNone,0,[]⟩

/- Port 1 and port 17084 hash to the same bucket (19939) of subtable 0. -/
def duplicateRun : List ChainEvent :=
  [.flowMod (flowModOf ofpfcAdd (exactMatch 17084 2) 0) 0,
   .flowMod (flowModOf ofpfcAdd (exactMatch 1 0) 0) 0,
   .flowMod (flowModOf ofpfcDeleteStrict (exactMatch 17084 2) 0) 0,
   .flowMod (flowModOf ofpfcAdd (exactMatch 1 0) 0) 0]

theorem reinsertKeepsOldCopy :
    (recvFlow (run chainStep chainCreate duplicateRun.dropLast) (flowModOf ofpfcAdd (exactMatch 1 0) 0) 0).error = none ∧
    (run chainStep chainCreate duplicateRun).flowAt ⟨0,0,19939⟩ = some (newFlow (flowModOf ofpfcAdd (exactMatch 1 0) 0) 0) ∧
    (run chainStep chainCreate duplicateRun).flowAt ⟨0,1,42554⟩ = some (newFlow (flowModOf ofpfcAdd (exactMatch 1 0) 0) 0) := by
  decide +kernel

theorem duplicateRunBreaksUniqueness : ¬ RulesUnique (run chainStep chainCreate duplicateRun) := by
  intro unique
  obtain ⟨-,first,second⟩ := reinsertKeepsOldCopy
  have same := unique _ _ _ _ first second (by decide)
  cases same

/- A match on an exact key: found in the chain, found by no stored flow, or found by an exact flow whenever
one matches, else by a wildcarded flow of the highest priority among those that match. -/
def Matches (key : SwFlowKey) (f : SwFlow) : Prop := flowMatches1wild key f.key = true

instance (key : SwFlowKey) (f : SwFlow) : Decidable (Matches key f) := inferInstanceAs (Decidable (_ = true))

def ExactMatchStored (chain : SwChain) (key : SwFlowKey) : Prop :=
  ∃ slot f, chain.flowAt slot = some f ∧ f.key.wildcards = 0 ∧ Matches key f

def LookupContract (chain : SwChain) (key : SwFlowKey) : Prop :=
  (chainLookup chain key false = none ↔ ∀ slot f, chain.flowAt slot = some f → ¬ Matches key f) ∧
  ∀ r, chainLookup chain key false = some r →
    (∃ slot, chain.flowAt slot = some r) ∧ Matches key r ∧
    (ExactMatchStored chain key → r.key.wildcards = 0) ∧
    (¬ ExactMatchStored chain key → ∀ slot f, chain.flowAt slot = some f → Matches key f → f.priority ≤ r.priority)

/- Every field wildcarded, at the highest priority a wildcarded flow can have. -/
def matchAll : OfpMatch := ⟨ofpfwAll,0,#v[0,0,0,0,0,0],#v[0,0,0,0,0,0],0,0,0,0,0,0,0,0,0⟩

/- Port 17084 shares the subtable-0 bucket of port 1, port 8673 its subtable-1 bucket, and port 25436 the
subtable-0 bucket of port 8673: the exact flow for port 1 finds both of its buckets taken and goes to the
linear table, behind the wildcarded flow of equal priority that is already there. -/
def shadowRun : List ChainEvent :=
  [.flowMod (flowModOf ofpfcAdd (exactMatch 17084 2) 0) 0,
   .flowMod (flowModOf ofpfcAdd (exactMatch 25436 3) 0) 0,
   .flowMod (flowModOf ofpfcAdd (exactMatch 8673 1) 0) 0,
   .flowMod (flowModOf ofpfcAdd matchAll 0xffff) 0,
   .flowMod (flowModOf ofpfcAdd (exactMatch 1 0) 0) 0]

/- The key flow_extract gives a frame of that exact flow; lookups read neither mask. -/
def shadowedKey : SwFlowKey := ⟨(flowExtractMatch (exactMatch 1 0)).flow,0,0,0⟩

theorem exactFlowShadowed :
    chainLookup (run chainStep chainCreate shadowRun) shadowedKey false =
      some (newFlow (flowModOf ofpfcAdd matchAll 0xffff) 0) ∧
    (run chainStep chainCreate shadowRun).flowAt ⟨1,0,1⟩ =
      some { newFlow (flowModOf ofpfcAdd (exactMatch 1 0) 0) 0 with serial := 1 } ∧
    (newFlow (flowModOf ofpfcAdd (exactMatch 1 0) 0) 0).key.wildcards = 0 ∧
    Matches shadowedKey (newFlow (flowModOf ofpfcAdd (exactMatch 1 0) 0) 0) ∧
    (newFlow (flowModOf ofpfcAdd matchAll 0xffff) 0).key.wildcards ≠ 0 := by
  decide +kernel

theorem shadowRunBreaksLookupContract :
    ¬ LookupContract (run chainStep chainCreate shadowRun) shadowedKey := by
  intro contract
  obtain ⟨found,stored,exact,hit,wild⟩ := exactFlowShadowed
  exact wild ((contract.2 _ found).2.2.1 ⟨_,_,stored,exact,hit⟩)

end OpenFlow.ChainRules
