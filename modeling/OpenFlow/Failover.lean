import Mathlib
import OpenFlow.Lib.StepSystem

/-! Controller failover in the secure channel (secchan/failover.c), started when more than one controller is
named. -/
namespace OpenFlow.Failover
open StepSystem

/- UINT_MAX, and sat_add of lib/sat-math.h. -/
def uintMax : UInt32 := 0xffffffff

def satAdd (x y : UInt32) : UInt32 := if x + y ≥ x then x + y else uintMax

/- is_timed_out: the epoch, a time_t, and max_backoff are passed as unsigned int. -/
def isTimedOut (epoch : Nat) (maxBackoff : Nat) (now : Nat) : Bool :=
  decide ((satAdd epoch.toUInt32 maxBackoff.toUInt32).toNat ≤ now)

/- struct failover_context: the current controller and each one's epoch, with the log of the connects it made.
-/
structure FailoverContext where
  index : Nat
  epochs : Nat → Nat
  connects : List (Nat × Nat)

/- failover_start at time `now`: every named controller's epoch is now. -/
def failoverStart (now : Nat) : FailoverContext := ⟨0,fun _ => now,[]⟩

/- failover_periodic_cb at time `now`. -/
def failoverPeriodicCb (numControllers maxBackoff : Nat) (ctx : FailoverContext) (now : Nat) (connected : Bool) :
    FailoverContext :=
  if connected then ctx
  else if !isTimedOut (ctx.epochs ctx.index) maxBackoff now then ctx
  else
    let index := (ctx.index + 1) % numControllers
    { index,epochs := Function.update ctx.epochs index now,connects := ctx.connects ++ [(index,now)] }

/- A call of the callback: the time and whether the rconn is connected. -/
def failoverStep (numControllers maxBackoff : Nat) (ctx : FailoverContext) (call : Nat × Bool) : FailoverContext :=
  failoverPeriodicCb numControllers maxBackoff ctx call.1 call.2

/- The time the current controller's epoch started: the last switch, or the start. -/
def lastSwitch (start : Nat) (connects : List (Nat × Nat)) : Nat := (connects.getLast?.map Prod.snd).getD start

/- The switch log is spaced: each switch at least `gap` seconds after the one before, the first after `start`. -/
def Spaced (gap : Nat) : Nat → List (Nat × Nat) → Prop
  | _,[] => True
  | t,(_,t') :: rest => t + gap ≤ t' ∧ Spaced gap t' rest

section Lemmas
variable {numControllers maxBackoff : Nat}

theorem satAddNoWrap {x y : Nat} (fits : x + y < 2 ^ 32) : (satAdd x.toUInt32 y.toUInt32).toNat = x + y := by
  have sum : (x.toUInt32 + y.toUInt32).toNat = x + y := by
    simp only [UInt32.toNat_add,Nat.toUInt32,UInt32.toNat_ofNat']
    rw [Nat.mod_eq_of_lt (by omega : x < 2 ^ 32),Nat.mod_eq_of_lt (by omega : y < 2 ^ 32),Nat.mod_eq_of_lt fits]
  have noWrap : x.toUInt32 + y.toUInt32 ≥ x.toUInt32 := by
    rw [ge_iff_le,UInt32.le_iff_toNat_le,sum,Nat.toUInt32,UInt32.toNat_ofNat',Nat.mod_eq_of_lt (by omega : x < 2 ^ 32)]
    omega
  rw [satAdd,if_pos noWrap,sum]

theorem periodicCbCases (numControllers maxBackoff : Nat) (ctx : FailoverContext) (now : Nat) (connected : Bool) :
    failoverPeriodicCb numControllers maxBackoff ctx now connected = ctx ∨
      (connected = false ∧ isTimedOut (ctx.epochs ctx.index) maxBackoff now = true ∧
        failoverPeriodicCb numControllers maxBackoff ctx now connected =
          { index := (ctx.index + 1) % numControllers
            epochs := Function.update ctx.epochs ((ctx.index + 1) % numControllers) now
            connects := ctx.connects ++ [((ctx.index + 1) % numControllers,now)] }) := by
  unfold failoverPeriodicCb
  split_ifs with up stale
  · exact .inl rfl
  · exact .inl rfl
  · simp only [Bool.not_eq_true] at up
    exact .inr ⟨up,by simpa using stale,rfl⟩

theorem failoverStepKeeps (Inv : FailoverContext → Prop) {ctx : FailoverContext} (call : Nat × Bool) (inv : Inv ctx)
    (switch : isTimedOut (ctx.epochs ctx.index) maxBackoff call.1 = true →
      Inv { index := (ctx.index + 1) % numControllers
            epochs := Function.update ctx.epochs ((ctx.index + 1) % numControllers) call.1
            connects := ctx.connects ++ [((ctx.index + 1) % numControllers,call.1)] }) :
    Inv (failoverStep numControllers maxBackoff ctx call) := by
  rcases periodicCbCases numControllers maxBackoff ctx call.1 call.2 with same | ⟨-,stale,switched⟩
  · rw [failoverStep,same]
    exact inv
  · rw [failoverStep,switched]
    exact switch stale

theorem spacedSnoc (gap : Nat) : ∀ (start : Nat) (log : List (Nat × Nat)) (c t : Nat),
    Spaced gap start log → lastSwitch start log + gap ≤ t → Spaced gap start (log ++ [(c,t)])
  | _,[],_,_,_,late => ⟨late,trivial⟩
  | _,(c',t') :: rest,c,t,⟨first,spaced⟩,late => by
    refine ⟨first,spacedSnoc gap t' rest c t spaced ?_⟩
    cases rest with
    | nil => simpa [lastSwitch] using late
    | cons e rest => simpa [lastSwitch,List.getLast?_cons] using late

/- The current controller's epoch is the time of the last switch, and the switches are `maxBackoff` apart,
while no time reaches 2^32 - maxBackoff. -/
structure Backoff (maxBackoff start : Nat) (ctx : FailoverContext) : Prop where
  epoch : ctx.epochs ctx.index = lastSwitch start ctx.connects
  spaced : Spaced maxBackoff start ctx.connects
  early : lastSwitch start ctx.connects + maxBackoff < 2 ^ 32

theorem backoffStart {now : Nat} (early : now + maxBackoff < 2 ^ 32) :
    Backoff maxBackoff now (failoverStart now) := ⟨rfl,trivial,early⟩

theorem backoffStep {start : Nat} {ctx : FailoverContext} (inv : Backoff maxBackoff start ctx) (call : Nat × Bool)
    (early : call.1 + maxBackoff < 2 ^ 32) : Backoff maxBackoff start (failoverStep numControllers maxBackoff ctx call) := by
  refine failoverStepKeeps (Backoff maxBackoff start) call inv fun stale => ?_
  have last : lastSwitch start (ctx.connects ++ [((ctx.index + 1) % numControllers,call.1)]) = call.1 := by
    simp [lastSwitch]
  have late : lastSwitch start ctx.connects + maxBackoff ≤ call.1 := by
    simp only [isTimedOut,inv.epoch,decide_eq_true_eq] at stale
    rwa [satAddNoWrap inv.early] at stale
  exact ⟨by simp [last],spacedSnoc maxBackoff start _ _ _ inv.spaced late,by rw [last]; exact early⟩

end Lemmas

/- Each switch comes max_backoff seconds or more after the one before, the first after the start, while every
time stays below 2^32 - max_backoff. -/
theorem failoverBackoff (numControllers maxBackoff start : Nat) (calls : List (Nat × Bool))
    (early : start + maxBackoff < 2 ^ 32) (allEarly : ∀ call ∈ calls, call.1 + maxBackoff < 2 ^ 32) :
    Spaced maxBackoff start (run (failoverStep numControllers maxBackoff) (failoverStart start) calls).connects :=
  (@runInvariant _ _ (failoverStep numControllers maxBackoff) (Backoff maxBackoff start)
    (fun call => call.1 + maxBackoff < 2 ^ 32) (fun _ call ok inv => backoffStep inv call ok) calls _ allEarly
    (backoffStart early)).spaced

theorem failoverBackoffTwice :
    0 + 15 < 2 ^ 32 ∧ (∀ call ∈ [(10,false),(15,false),(20,true),(31,false)], call.1 + 15 < 2 ^ 32) ∧
      Spaced 15 0 (run (failoverStep 2 15) (failoverStart 0) [(10,false),(15,false),(20,true),(31,false)]).connects :=
  ⟨by decide,by decide,failoverBackoff 2 15 0 _ (by decide) (by decide)⟩

/- Switches at 15 and 31. -/
example : (run (failoverStep 2 15) (failoverStart 0) [(10,false),(15,false),(20,true),(31,false)]).connects =
    [(1,15),(0,31)] := by
  decide

end OpenFlow.Failover
