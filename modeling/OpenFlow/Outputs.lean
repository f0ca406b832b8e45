import OpenFlow.Execute
import OpenFlow.Lib.Simulation

/-! What execute_actions hands to do_output, against the reading of an action list its loop implements: walk
the actions once, and at each output or enqueue emit the packet as the actions before it left it. -/
namespace OpenFlow.Outputs
open Actions WhileLoop Execute Simulation

/- One output as do_output receives it: the port, the queue, max_len and the bytes of the packet. -/
structure Emission where
  port : UInt16
  queue : UInt32
  maxLen : UInt16
  packet : List UInt8
  deriving DecidableEq, Repr

/- A do_output that records what it is given. -/
def recordOutput : DoOutput (List Emission) := fun log buffer _ maxLen port queue =>
  .ok (log ++ [⟨port,queue,maxLen,buffer.contents⟩])

/- The reference walk: the packet and key as the actions so far left them, and what was emitted so far. -/
structure Walk where
  buffer : Ofpbuf
  key : SwFlowKey
  emitted : List Emission

def walkStep (acts : List UInt8) (w : Walk) (p : Nat) : Except Halt Walk :=
  let type := actionType acts p
  if type = ofpatOutput then
    .ok { w with emitted := w.emitted ++ [⟨outputPort acts p,0,outputMaxLen acts p,w.buffer.contents⟩] }
  else if type = ofpatEnqueue then
    .ok { w with emitted := w.emitted ++ [⟨outputPort acts p,enqueueQueueId acts p,0,w.buffer.contents⟩] }
  else if type < ofActionsSize then
    (executeOfpat w.buffer w.key acts p type).map fun r => { w with buffer := r.1,key := r.2 }
  else .ok w

def walk (acts : List UInt8) (offs : List Nat) (buffer : Ofpbuf) (key : SwFlowKey) : Except Halt Walk :=
  offs.foldlM (walkStep acts) ⟨buffer,key,[]⟩

section Reference
variable {acts : List UInt8}

theorem walkStepGrows {w w' : Walk} {p : Nat} (step : walkStep acts w p = .ok w') : w.emitted <+: w'.emitted := by
  unfold walkStep at step
  dsimp only at step
  split at step
  · cases step
    exact List.prefix_append _ _
  · split at step
    · cases step
      exact List.prefix_append _ _
    · split at step
      · obtain ⟨r,-,rfl⟩ := mapOk step
        exact List.prefix_refl _
      · cases step
        exact List.prefix_refl _

theorem walkGrows : ∀ (offs : List Nat) {w w' : Walk}, offs.foldlM (walkStep acts) w = .ok w' →
    w.emitted <+: w'.emitted
  | [], _, _, done => by
    cases done
    exact List.prefix_refl _
  | o :: offs, w, w', done => by
    rw [List.foldlM_cons] at done
    cases step : walkStep acts w o with
    | error e =>
      rw [step] at done
      cases done
    | ok next =>
      rw [step] at done
      exact (walkStepGrows step).trans (walkGrows offs done)

theorem walkStepSilent {w w' : Walk} {p : Nat} (output : actionType acts p ≠ ofpatOutput)
    (enqueue : actionType acts p ≠ ofpatEnqueue) (step : walkStep acts w p = .ok w') : w'.emitted = w.emitted := by
  unfold walkStep at step
  dsimp only at step
  simp only [output,enqueue,if_false] at step
  split at step
  · obtain ⟨r,-,rfl⟩ := mapOk step
    rfl
  · cases step
    rfl

theorem walkSilent : ∀ (offs : List Nat),
    (∀ o ∈ offs, actionType acts o ≠ ofpatOutput ∧ actionType acts o ≠ ofpatEnqueue) →
    ∀ {w w' : Walk}, offs.foldlM (walkStep acts) w = .ok w' → w'.emitted = w.emitted
  | [], _, _, _, done => by cases done; rfl
  | o :: offs, silent, w, w', done => by
    rw [List.foldlM_cons] at done
    cases step : walkStep acts w o with
    | error e =>
      rw [step] at done
      cases done
    | ok next =>
      rw [step] at done
      obtain ⟨output,enqueue⟩ := silent o List.mem_cons_self
      rw [walkSilent offs (fun o' mem => silent o' (List.mem_cons_of_mem o mem)) done,
        walkStepSilent output enqueue step]

end Reference

/- The output the loop holds back, as it will emit it. -/
def pendingEmission (st : LoopState) : List Emission :=
  match st.prev with
  | some (port,queue) => [⟨port,queue,st.maxLen,st.buffer.contents⟩]
  | none => []

/- The loop, with what it recorded, is where the walk is: the same packet and key, and the walk has emitted
what the loop recorded and what it holds back. -/
structure Tracks (r : List Emission × LoopState) (w : Walk) : Prop where
  buffer : r.2.buffer = w.buffer
  key : r.2.key = w.key
  emitted : w.emitted = r.1 ++ pendingEmission r.2

theorem ofpbufCloneContents (b : Ofpbuf) : (ofpbufClone b).contents = b.contents := by
  simp [ofpbufClone,ofpbufCloneData,ofpbufPut,ofpbufNew,Ofpbuf.contents,Ofpbuf.write]

section Loop
variable (acts : List UInt8) (inPort : UInt16)

theorem executeStepFlush (log : List Emission) (st : LoopState) (p : Nat) :
    executeStep recordOutput acts inPort log st p =
      executeStep recordOutput acts inPort (log ++ pendingEmission st) { st with prev := none } p := by
  cases pending : st.prev with
  | none =>
    have same : { st with prev := none } = st := by
      cases st
      simp only at pending
      rw [pending]
    rw [same,pendingEmission,pending,List.append_nil]
  | some held =>
    obtain ⟨port,queue⟩ := held
    rw [executeStepPending recordOutput acts inPort pending,pendingEmission,pending]
    simp only [recordOutput,Except.bind,ofpbufCloneContents]

theorem executeStepIdleTracks (log : List Emission) (st : LoopState) (w : Walk) (p : Nat) (idle : st.prev = none)
    (buffer : st.buffer = w.buffer) (key : st.key = w.key) (emitted : w.emitted = log) :
    ExceptRel Tracks (executeStep recordOutput acts inPort log st p) (walkStep acts w p) := by
  have same : { st with prev := none } = st := by
    cases st
    simp only at idle
    rw [idle]
  unfold executeStep walkStep
  simp only [idle,same]
  split
  · -- an output is held back; the walk emits it at once
    refine .ok ⟨buffer,key,?_⟩
    simp [pendingEmission,emitted,buffer]
  · split
    · refine .ok ⟨buffer,key,?_⟩
      simp [pendingEmission,emitted,buffer]
    · split
      · rw [buffer,key]
        cases executeOfpat w.buffer w.key acts p (actionType acts p) with
        | error e => exact .error e
        | ok r => exact .ok ⟨rfl,rfl,by simp [pendingEmission,emitted]⟩
      · exact .ok ⟨buffer,key,by simp [pendingEmission,emitted,idle]⟩

theorem executeStepTracks (r : List Emission × LoopState) (w : Walk) (p : Nat) (tracks : Tracks r w) :
    ExceptRel Tracks (executeStep recordOutput acts inPort r.1 r.2 p) (walkStep acts w p) := by
  rw [executeStepFlush]
  exact executeStepIdleTracks acts inPort _ _ w p rfl tracks.buffer tracks.key tracks.emitted

theorem lastOutputRecord (log : List Emission) (st : LoopState) :
    lastOutput recordOutput inPort log st = .ok (log ++ pendingEmission st) := by
  cases pending : st.prev with
  | none => simp [lastOutput,pendingEmission,pending,pure,Except.pure]
  | some held => simp [lastOutput,pendingEmission,pending,recordOutput]

end Loop

/- For a list validate_actions accepts, execute_actions emits what the walk over its actions emits, on every
packet and key: each output is the packet as the actions before it left it, the outputs of the first actions
are those of the walk over them alone whatever follows, and a list with no output or enqueue emits nothing. -/
theorem executeActionsOutputs {key : SwFlowKey} {acts : List UInt8}
    (ok : validateActions key acts acts.length = actValidationOk) :
    ∃ offs : List Nat, Tiles (actionLen acts) 0 acts.length offs ∧
      ∀ (buffer : Ofpbuf) (k : SwFlowKey),
        executeActionsWith recordOutput acts [] buffer k acts.length = (walk acts offs buffer k).map Walk.emitted ∧
        (∀ pre post ems, offs = pre ++ post →
          executeActionsWith recordOutput acts [] buffer k acts.length = .ok ems →
          ∃ w, walk acts pre buffer k = .ok w ∧ w.emitted <+: ems) ∧
        ((∀ o ∈ offs, actionType acts o ≠ ofpatOutput ∧ actionType acts o ≠ ofpatEnqueue) →
          ∀ ems, executeActionsWith recordOutput acts [] buffer k acts.length = .ok ems → ems = []) := by
  obtain ⟨offs,tiles,-,-,run,-⟩ := validatedActionsWalk ok
  refine ⟨offs,tiles,fun buffer k => ?_⟩
  have start : Tracks ([],⟨buffer,k,none,0xffff⟩) ⟨buffer,k,[]⟩ := ⟨rfl,rfl,rfl⟩
  have lockstep := foldlMRel (executeStepTracks acts k.flow.inPort) offs start
  have same : executeActionsWith recordOutput acts [] buffer k acts.length = (walk acts offs buffer k).map Walk.emitted := by
    rw [run,walk]
    have read : ∀ (x : Except Halt (List Emission × LoopState)),
        x.bind (fun r => lastOutput recordOutput k.flow.inPort r.1 r.2) = x.map fun r => r.1 ++ pendingEmission r.2 := by
      intro x
      cases x <;> simp [Except.bind,Except.map,lastOutputRecord]
    rw [read]
    exact lockstep.map fun r w tracks => tracks.emitted.symm
  refine ⟨same,?_,?_⟩
  · intro pre post ems split emits
    rw [same,split] at emits
    obtain ⟨w',found,rfl⟩ := mapOk emits
    rw [walk,List.foldlM_append] at found
    cases first : pre.foldlM (walkStep acts) ⟨buffer,k,[]⟩ with
    | error e =>
      rw [first] at found
      cases found
    | ok w =>
      rw [first] at found
      exact ⟨w,first,walkGrows post found⟩
  · intro silent ems emits
    rw [same] at emits
    obtain ⟨w',found,rfl⟩ := mapOk emits
    exact walkSilent offs silent found

theorem outputActionEmits :
    validateActions (flowExtractMatch ⟨ofpfwAll,0,#v[0,0,0,0,0,0],#v[0,0,0,0,0,0],0,0,0,0,0,0,0,0,0⟩)
        (ofpActionOutput 2 0) (ofpActionOutput 2 0).length = actValidationOk ∧
    ∃ offs : List Nat, Tiles (actionLen (ofpActionOutput 2 0)) 0 (ofpActionOutput 2 0).length offs ∧
      ∀ (buffer : Ofpbuf) (k : SwFlowKey),
        executeActionsWith recordOutput (ofpActionOutput 2 0) [] buffer k (ofpActionOutput 2 0).length =
          (walk (ofpActionOutput 2 0) offs buffer k).map Walk.emitted ∧
        (∀ pre post ems, offs = pre ++ post →
          executeActionsWith recordOutput (ofpActionOutput 2 0) [] buffer k (ofpActionOutput 2 0).length = .ok ems →
          ∃ w, walk (ofpActionOutput 2 0) pre buffer k = .ok w ∧ w.emitted <+: ems) ∧
        ((∀ o ∈ offs, actionType (ofpActionOutput 2 0) o ≠ ofpatOutput ∧
            actionType (ofpActionOutput 2 0) o ≠ ofpatEnqueue) →
          ∀ ems, executeActionsWith recordOutput (ofpActionOutput 2 0) [] buffer k
            (ofpActionOutput 2 0).length = .ok ems → ems = []) :=
  have ok : validateActions (flowExtractMatch ⟨ofpfwAll,0,#v[0,0,0,0,0,0],#v[0,0,0,0,0,0],0,0,0,0,0,0,0,0,0⟩)
      (ofpActionOutput 2 0) (ofpActionOutput 2 0).length = actValidationOk := by decide +kernel
  ⟨ok,executeActionsOutputs ok⟩

end OpenFlow.Outputs
