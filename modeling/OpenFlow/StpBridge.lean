import Mathlib
import OpenFlow.Stp
import OpenFlow.Lib.StepSystem

/-! One bridge of lib/stp.c driven by its public calls, and the roles its ports take: the root port, through
which the bridge hears of a root below itself, the designated ports, and the blocking rest. -/
namespace OpenFlow.Stp
open StepSystem

/- The calls that change a bridge after stp_create. -/
inductive Op where
  | tick (ms : Int)
  | receivedBpdu (port : Fin stpMaxPorts) (bpdu : List UInt8)
  | portEnable (port : Fin stpMaxPorts)
  | portDisable (port : Fin stpMaxPorts)
  | portSetPathCost (port : Fin stpMaxPorts) (pathCost : UInt16)
  | portSetPriority (port : Fin stpMaxPorts) (priority : UInt8)
  | portEnableChangeDetection (port : Fin stpMaxPorts)
  | portDisableChangeDetection (port : Fin stpMaxPorts)
  | setBridgeId (bridgeId : UInt64)
  | setBridgePriority (priority : UInt16)
  | setHelloTime (ms : Int)
  | setMaxAge (ms : Int)
  | setForwardDelay (ms : Int)
  | getChangedPort

def stpApply (stp : Stp) : Op → Stp
  | .tick ms => stpTick stp ms
  | .receivedBpdu port bpdu => stpReceivedBpdu stp port bpdu
  | .portEnable port => stpPortEnable stp port
  | .portDisable port => stpPortDisable stp port
  | .portSetPathCost port pathCost => stpPortSetPathCost stp port pathCost
  | .portSetPriority port priority => stpPortSetPriority stp port priority
  | .portEnableChangeDetection port => stpPortEnableChangeDetection stp port
  | .portDisableChangeDetection port => stpPortDisableChangeDetection stp port
  | .setBridgeId bridgeId => stpSetBridgeId stp bridgeId
  | .setBridgePriority priority => stpSetBridgePriority stp priority
  | .setHelloTime ms => stpSetHelloTime stp ms
  | .setMaxAge ms => stpSetMaxAge stp ms
  | .setForwardDelay ms => stpSetForwardDelay stp ms
  | .getChangedPort => (stpGetChangedPort stp).1

/- The roles agree with the root the bridge records: the root port is an enabled port, not designated, that
hears of a root below this bridge at the recorded cost, counted without wrap; with no root port the bridge is
its own root at cost 0; and among the enabled ports, those in a role are exactly those not blocking. -/
def RolesAgree (stp : Stp) : Prop :=
  (match stp.rootPort with
    | none => stp.designatedRoot = stp.bridgeId ∧ stp.rootPathCost = 0
    | some r =>
      r < stpMaxPorts ∧ (stp.ports r).state ≠ .disabled ∧ stpIsDesignatedPort stp (stp.ports r) = false ∧
        stp.designatedRoot = (stp.ports r).designatedRoot ∧ stp.designatedRoot < stp.bridgeId ∧
        (stp.rootPathCost.toNat : Int) = (stp.ports r).designatedCost + (stp.ports r).pathCost) ∧
  ∀ i < stpMaxPorts, (stp.ports i).state ≠ .disabled →
    ((stp.rootPort = some i ∨ stpIsDesignatedPort stp (stp.ports i) = true) ↔ (stp.ports i).state ≠ .blocking)

/- A config BPDU from bridge 7 that advertises root 1 at cost 2^32 - 1. -/
def wrappedCostBpdu : ConfigBpdu :=
  { protocolId := stpProtocolId
    protocolVersion := stpProtocolVersion
    bpduType := stpTypeConfig
    flags := 0
    rootId := 1
    rootPathCost := 0xFFFFFFFF
    bridgeId := 7
    portId := 0x8001
    messageAge := 0
    maxAge := 0x600
    helloTime := 0x200
    forwardDelay := 0x400 }

def wrappedCostRun : List Op := [.portEnable ⟨0,by decide⟩,.receivedBpdu ⟨0,by decide⟩ wrappedCostBpdu.bytes]

/- Port 0 records the advertised cost as the int -1, so the root cost is -1 + 19 = 18 as unsigned. -/
theorem wrappedCostBreaksRoles :
    Reachable stpApply (stpCreate 5) (run stpApply (stpCreate 5) wrappedCostRun) ∧
      (run stpApply (stpCreate 5) wrappedCostRun).rootPort = some 0 ∧
      stpIsDesignatedPort (run stpApply (stpCreate 5) wrappedCostRun)
        ((run stpApply (stpCreate 5) wrappedCostRun).ports 0) = true ∧
      (run stpApply (stpCreate 5) wrappedCostRun).rootPathCost = 18 ∧
      ((run stpApply (stpCreate 5) wrappedCostRun).ports 0).designatedCost +
        ((run stpApply (stpCreate 5) wrappedCostRun).ports 0).pathCost = 37 ∧
      ¬ RolesAgree (run stpApply (stpCreate 5) wrappedCostRun) := by
  generalize reached : run stpApply (stpCreate 5) wrappedCostRun = stp
  have facts : stp.rootPort = some 0 ∧ stpIsDesignatedPort stp (stp.ports 0) = true ∧ stp.rootPathCost = 18 ∧
      (stp.ports 0).designatedCost + (stp.ports 0).pathCost = 37 := by
    rw [← reached]
    decide +kernel
  obtain ⟨rootPort,designated,cost,sum⟩ := facts
  refine ⟨reached ▸ reachableRun stpApply (stpCreate 5) wrappedCostRun,rootPort,designated,cost,sum,?_⟩
  intro agree
  have root := agree.1
  rw [rootPort] at root
  have notDesignated := root.2.2.1
  rw [designated] at notDesignated
  exact Bool.noConfusion notDesignated

end OpenFlow.Stp
