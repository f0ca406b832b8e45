import OpenFlow.Datapath
import OpenFlow.Lib.Bits
import OpenFlow.Lib.StepSystem

/-! The saved-packet buffers of datapath.c under any sequence of save_buffer, retrieve_buffer and
discard_buffer calls and of clock changes. -/
namespace OpenFlow.Buffers
open Datapath StepSystem Bits

inductive BufferCall
  | save (buffer : Ofpbuf)
  | retrieve (id : UInt32)
  | discard (id : UInt32)
  | tick (now : UInt64)
  deriving DecidableEq

inductive BufferReply
  | saved (id : UInt32)
  | retrieved (buffer : Option Ofpbuf)
  | done
  deriving DecidableEq

def bufferCall (dp : Datapath) : BufferCall → BufferReply × Datapath
  | .save buffer => (.saved (saveBuffer dp buffer).1,(saveBuffer dp buffer).2)
  | .retrieve id => (.retrieved (retrieveBuffer dp id).1,(retrieveBuffer dp id).2)
  | .discard id => (.done,discardBuffer dp id)
  | .tick now => (.done,{ dp with now := now })

/- The file-static buffers[] and buffer_idx, zero-filled. -/
def bufferInit (dp : Datapath) : Datapath := { dp with buffers := fun _ => ⟨none,0,0⟩, bufferIdx := 0 }

/- The calls from the zero-filled buffers, each with what it returned. -/
def bufferTrace (dp : Datapath) (calls : List BufferCall) : List (BufferCall × BufferReply) :=
  answers bufferCall (bufferInit dp) calls

def slotOf (id : UInt32) : UInt32 := id &&& pktBufferMask

/- The slot save_buffer moves buffer_idx to. -/
def nextSlot (dp : Datapath) : UInt32 := (dp.bufferIdx + 1) &&& pktBufferMask

/- The cookie save_buffer gives the slot it fills. -/
def cookieNext (cookie : UInt32) : UInt32 :=
  if cookie + 1 ≥ ((1 : UInt32) <<< pktCookieBits) - 1 then 0 else cookie + 1

/- What retrieve_buffer returns for `id` from these buffers. -/
def lookupBuffer (buffers : Nat → PacketBuffer) (id : UInt32) : Option Ofpbuf :=
  if (buffers (slotOf id).toNat).cookie = id >>> pktBufferBits then (buffers (slotOf id).toNat).buffer else none

section Ids

theorem slotLt (w : UInt32) : (slotOf w).toNat < 2 ^ pktBufferBits.toNat := by
  have low : (slotOf w).toNat ≤ 255 := by
    simp only [slotOf,pktBufferMask,pktBufferBits,UInt32.toNat_and]
    exact Nat.and_le_right
  have room : 2 ^ pktBufferBits.toNat = 256 := by decide
  omega

theorem bitsLt : pktBufferBits.toNat < 32 := by decide

theorem slotOfPacked {idx c : UInt32} (fits : idx.toNat < 2 ^ pktBufferBits.toNat) :
    slotOf (idx ||| c <<< pktBufferBits) = idx :=
  packLow bitsLt fits

theorem cookieOfPacked {idx c : UInt32} (fits : idx.toNat < 2 ^ pktBufferBits.toNat) (small : c.toNat < 0xffffff) :
    (idx ||| c <<< pktBufferBits) >>> pktBufferBits = c :=
  have room : 2 ^ (32 - pktBufferBits.toNat) = 16777216 := by decide
  packHigh bitsLt fits (by omega)

theorem sameId {x y : UInt32} (slot : slotOf x = slotOf y) (cookie : x >>> pktBufferBits = y >>> pktBufferBits) :
    x = y := by
  rw [← packSplit bitsLt x,← packSplit bitsLt y]
  exact congrArg₂ (· ||| · <<< pktBufferBits) slot cookie

theorem cookieNextLt (c : UInt32) : (cookieNext c).toNat < 0xffffff := by
  unfold cookieNext
  split
  · decide
  · rename_i small
    have limit : ((1 : UInt32) <<< pktCookieBits) - 1 = 0xffffff := by decide
    rw [limit,ge_iff_le,UInt32.not_le] at small
    exact UInt32.lt_iff_toNat_lt.mp small

theorem packedNeMax {idx c : UInt32} (fits : idx.toNat < 2 ^ pktBufferBits.toNat) (small : c.toNat < 0xffffff) :
    idx ||| c <<< pktBufferBits ≠ 0xffffffff := by
  intro max
  have cookie := cookieOfPacked fits small
  have top : (0xffffffff : UInt32) >>> pktBufferBits = 0xffffff := by decide
  rw [max,top] at cookie
  rw [← cookie] at small
  exact absurd small (by decide)

end Ids

section Cookies

theorem cookieNextVal {c : UInt32} (small : c.toNat < 0xffffff) : (cookieNext c).toNat = (c.toNat + 1) % 0xffffff := by
  have limit : ((1 : UInt32) <<< pktCookieBits) - 1 = 0xffffff := by decide
  have succ : (c + 1).toNat = c.toNat + 1 := by
    rw [UInt32.toNat_add]
    simp only [UInt32.reduceToNat]
    omega
  unfold cookieNext
  rw [limit]
  split
  · rename_i wrap
    rw [ge_iff_le,UInt32.le_iff_toNat_le,succ] at wrap
    simp only [UInt32.reduceToNat] at wrap ⊢
    omega
  · rename_i stay
    rw [ge_iff_le,UInt32.le_iff_toNat_le,succ] at stay
    simp only [UInt32.reduceToNat] at stay
    rw [succ]
    omega

theorem cookieIterateVal {c : UInt32} (small : c.toNat < 0xffffff) :
    ∀ j, (cookieNext^[j] c).toNat = (c.toNat + j) % 0xffffff
  | 0 => by
    rw [Function.iterate_zero_apply]
    omega
  | j + 1 => by
    have before := cookieIterateVal small j
    have below : (cookieNext^[j] c).toNat < 0xffffff := by
      rw [before]
      omega
    rw [Function.iterate_succ_apply',cookieNextVal below,before]
    omega

theorem cookieIterateNe {c : UInt32} (small : c.toNat < 0xffffff) {j : Nat} (pos : 0 < j) (lt : j < 0xffffff) :
    cookieNext^[j] c ≠ c := by
  intro back
  have val := cookieIterateVal small j
  rw [back] at val
  omega

theorem cookieNextNe (c : UInt32) : cookieNext c ≠ c := by
  intro same
  by_cases small : c.toNat < 0xffffff
  · have val := cookieNextVal small
    rw [same] at val
    omega
  · have lt := cookieNextLt c
    rw [same] at lt
    exact small lt

end Cookies

section Calls
variable {dp : Datapath} {b : Ofpbuf}

theorem saveBufferRefused
    (young : (dp.buffers (nextSlot dp).toNat).buffer.isSome ∧ dp.now < (dp.buffers (nextSlot dp).toNat).timeout) :
    saveBuffer dp b = (0xffffffff,{ dp with bufferIdx := nextSlot dp }) := by
  unfold saveBuffer
  exact if_pos young

theorem saveBufferStored
    (old : ¬ ((dp.buffers (nextSlot dp).toNat).buffer.isSome ∧ dp.now < (dp.buffers (nextSlot dp).toNat).timeout)) :
    saveBuffer dp b = (nextSlot dp ||| cookieNext (dp.buffers (nextSlot dp).toNat).cookie <<< pktBufferBits,
      { dp with
          bufferIdx := nextSlot dp,
          buffers := Function.update dp.buffers (nextSlot dp).toNat
            ⟨some (ofpbufClone b),cookieNext (dp.buffers (nextSlot dp).toNat).cookie,dp.now + overwriteSecs⟩ }) := by
  unfold saveBuffer
  exact if_neg old

theorem retrieveBufferFst (dp : Datapath) (id : UInt32) : (retrieveBuffer dp id).1 = lookupBuffer dp.buffers id := by
  unfold retrieveBuffer lookupBuffer slotOf
  exact apply_ite Prod.fst _ _ _

theorem retrieveBufferSnd (dp : Datapath) (id : UInt32) :
    (retrieveBuffer dp id).2 =
      if (dp.buffers (slotOf id).toNat).cookie = id >>> pktBufferBits then
        { dp with
            buffers := Function.update dp.buffers (slotOf id).toNat
              { dp.buffers (slotOf id).toNat with buffer := none } }
      else dp := by
  unfold retrieveBuffer slotOf
  exact apply_ite Prod.snd _ _ _

theorem lookupUpdateOther {bs : Nat → PacketBuffer} {i : Nat} {p : PacketBuffer} {id : UInt32}
    (other : (slotOf id).toNat ≠ i) : lookupBuffer (Function.update bs i p) id = lookupBuffer bs id := by
  simp only [lookupBuffer,Function.update_of_ne other]

theorem lookupUpdateSlot {bs : Nat → PacketBuffer} {i : Nat} {p : PacketBuffer} {id : UInt32}
    (here : (slotOf id).toNat = i) :
    lookupBuffer (Function.update bs i p) id = if p.cookie = id >>> pktBufferBits then p.buffer else none := by
  subst here
  simp only [lookupBuffer,Function.update_self]

end Calls

/- The store the calls are read against. -/
def heldStep (held : UInt32 → Option Ofpbuf) : BufferCall × BufferReply → UInt32 → Option Ofpbuf
  | (.save buffer,.saved id) => fun x =>
    if id = 0xffffffff then held x
    else if x = id then some (ofpbufClone buffer)
    else if slotOf x = slotOf id then none
    else held x
  | (.retrieve id,_) => Function.update held id none
  | (.discard id,_) => Function.update held id none
  | _ => held

def heldAfter (trace : List (BufferCall × BufferReply)) : UInt32 → Option Ofpbuf :=
  trace.foldl heldStep fun _ => none

def CookiesBelow (dp : Datapath) : Prop := ∀ i, (dp.buffers i).cookie.toNat < 0xffffff

/- The buffers answer every id with what `held` holds under it. -/
structure Agrees (dp : Datapath) (held : UInt32 → Option Ofpbuf) : Prop where
  cookies : CookiesBelow dp
  lookup : ∀ id, lookupBuffer dp.buffers id = held id

section Refinement
variable {dp : Datapath} {held : UInt32 → Option Ofpbuf}

theorem agreesInit (dp : Datapath) : Agrees (bufferInit dp) fun _ => none := by
  refine ⟨fun _ => (by decide : (0 : UInt32).toNat < 0xffffff),fun id => ?_⟩
  simp only [lookupBuffer,bufferInit]
  exact ite_self none

theorem saveAgrees (agrees : Agrees dp held) (b : Ofpbuf) :
    Agrees (saveBuffer dp b).2 (heldStep held (.save b,.saved (saveBuffer dp b).1)) := by
  by_cases young : (dp.buffers (nextSlot dp).toNat).buffer.isSome ∧ dp.now < (dp.buffers (nextSlot dp).toNat).timeout
  · rw [saveBufferRefused young]
    exact ⟨agrees.cookies,fun id => by simp only [heldStep,if_true]; exact agrees.lookup id⟩
  rw [saveBufferStored young]
  dsimp only
  have fits : (nextSlot dp).toNat < 2 ^ pktBufferBits.toNat := slotLt (dp.bufferIdx + 1)
  have next := cookieNextLt (dp.buffers (nextSlot dp).toNat).cookie
  have slot := slotOfPacked (c := cookieNext (dp.buffers (nextSlot dp).toNat).cookie) fits
  have cookie := cookieOfPacked fits next
  have ne := packedNeMax fits next
  refine ⟨fun i => ?_,fun x => ?_⟩ <;> dsimp only
  · by_cases filled : i = (nextSlot dp).toNat
    · rw [filled,Function.update_self]
      exact next
    · rw [Function.update_of_ne filled]
      exact agrees.cookies i
  simp only [heldStep,if_neg ne]
  set id := nextSlot dp ||| cookieNext (dp.buffers (nextSlot dp).toNat).cookie <<< pktBufferBits
  by_cases same : slotOf x = nextSlot dp
  · rw [lookupUpdateSlot (congrArg UInt32.toNat same)]
    by_cases own : x = id
    · have hit : cookieNext (dp.buffers (nextSlot dp).toNat).cookie = x >>> pktBufferBits := by rw [own,cookie]
      rw [if_pos hit,if_pos own]
    · have other : cookieNext (dp.buffers (nextSlot dp).toNat).cookie ≠ x >>> pktBufferBits := fun eq =>
        own (sameId (by rw [same,slot]) (by rw [cookie,eq]))
      have reused : slotOf x = slotOf id := by rw [same,slot]
      rw [if_neg other,if_neg own,if_pos reused]
  · have other : (slotOf x).toNat ≠ (nextSlot dp).toNat := fun eq => same (UInt32.toNat_inj.mp eq)
    have own : x ≠ id := fun eq => same (by rw [eq,slot])
    have apart : slotOf x ≠ slotOf id := by rw [slot]; exact same
    rw [lookupUpdateOther other,agrees.lookup x,if_neg own,if_neg apart]

theorem retrieveAgrees (agrees : Agrees dp held) (y : UInt32) :
    Agrees (retrieveBuffer dp y).2 (Function.update held y none) := by
  rw [retrieveBufferSnd]
  split
  · rename_i hit
    refine ⟨fun i => ?_,fun x => ?_⟩ <;> dsimp only
    · by_cases emptied : i = (slotOf y).toNat
      · rw [emptied,Function.update_self]
        exact agrees.cookies _
      · rw [Function.update_of_ne emptied]
        exact agrees.cookies i
    by_cases same : slotOf x = slotOf y
    · -- the slot keeps its cookie, so it answers nothing, and `x` can only be `y`
      rw [lookupUpdateSlot (congrArg UInt32.toNat same)]
      dsimp only
      by_cases named : x = y
      · rw [named,Function.update_self]
        exact ite_self none
      · have other : (dp.buffers (slotOf y).toNat).cookie ≠ x >>> pktBufferBits := fun eq =>
          named (sameId same (by rw [← eq,hit]))
        rw [Function.update_of_ne named,← agrees.lookup x,lookupBuffer,same,if_neg other,if_neg other]
    · have other : (slotOf x).toNat ≠ (slotOf y).toNat := fun eq => same (UInt32.toNat_inj.mp eq)
      have named : x ≠ y := fun eq => same (by rw [eq])
      rw [lookupUpdateOther other,Function.update_of_ne named]
      exact agrees.lookup x
  · rename_i miss
    refine ⟨agrees.cookies,fun x => ?_⟩
    by_cases named : x = y
    · rw [named,Function.update_self,lookupBuffer,if_neg miss]
    · rw [Function.update_of_ne named]
      exact agrees.lookup x

theorem bufferCallAgrees (agrees : Agrees dp held) (call : BufferCall) :
    Agrees (bufferCall dp call).2 (heldStep held (call,(bufferCall dp call).1)) := by
  cases call with
  | save b => exact saveAgrees agrees b
  | retrieve y => exact retrieveAgrees agrees y
  | discard y => exact retrieveAgrees agrees y
  | tick now => exact ⟨agrees.cookies,agrees.lookup⟩

theorem heldAgrees (dp : Datapath) (calls : List BufferCall) :
    Agrees (after bufferCall (bufferInit dp) calls) (heldAfter (bufferTrace dp calls)) := by
  refine answersInvariant bufferCall (I := fun s t => Agrees s (heldAfter t)) ?_ (agreesInit dp) calls
  intro s t call agrees
  simp only [heldAfter,List.foldl_append,List.foldl_cons,List.foldl_nil]
  exact bufferCallAgrees agrees call

theorem retrieveHeld {dp : Datapath} {calls : List BufferCall} {pre post : List (BufferCall × BufferReply)}
    {id : UInt32} {r : BufferReply} (split : bufferTrace dp calls = pre ++ (.retrieve id,r) :: post) :
    r = .retrieved (heldAfter pre id) := by
  obtain ⟨before,answer,-⟩ := answersSplit bufferCall split
  simp only [bufferCall] at answer
  rw [answer,retrieveBufferFst,(heldAgrees dp (pre.map Prod.fst)).lookup id,bufferTrace,← before]

end Refinement

/- A save that buffered its packet in the slot of `id`. -/
def reusesSlot (id : UInt32) : BufferCall × BufferReply → Bool
  | (.save _,.saved id') => id' != 0xffffffff && slotOf id' == slotOf id
  | _ => false

/- A retrieve or a discard of `id`. -/
def namesId (id : UInt32) : BufferCall × BufferReply → Bool
  | (.retrieve id',_) => id' == id
  | (.discard id',_) => id' == id
  | _ => false

/- A save that buffered its packet under `id`. -/
def savedUnder (id : UInt32) : BufferCall × BufferReply → Bool
  | (.save _,.saved id') => id' == id && id' != 0xffffffff
  | _ => false

section Store
variable {id : UInt32}

theorem heldStepAt (held : UInt32 → Option Ofpbuf) {e : BufferCall × BufferReply} (other : savedUnder id e = false) :
    heldStep held e id = if (!reusesSlot id e && !namesId id e) = true then held id else none := by
  obtain ⟨call,reply⟩ := e
  cases call with
  | save b =>
    cases reply with
    | saved id' =>
      have noName : namesId id (.save b,.saved id') = false := rfl
      by_cases refused : id' = 0xffffffff
      · have noReuse : reusesSlot id (.save b,.saved id') = false := by
          simp only [reusesSlot,refused,bne_self_eq_false,Bool.false_and]
        simp only [heldStep,if_pos refused,noReuse,noName,Bool.not_false,Bool.and_self,if_true]
      · have apart : id ≠ id' := fun eq => by simp [savedUnder,eq,refused] at other
        have keep : (id' != 0xffffffff) = true := bne_iff_ne.mpr refused
        simp only [heldStep,if_neg refused,if_neg apart,noName,reusesSlot,keep,Bool.true_and,Bool.not_false,
          Bool.and_true]
        by_cases same : slotOf id' = slotOf id
        · simp [same]
        · simp [same,Ne.symm same]
    | retrieved _ => rfl
    | done => rfl
  | retrieve y =>
    by_cases named : y = id
    · simp [heldStep,reusesSlot,namesId,named]
    · simp [heldStep,reusesSlot,namesId,named,Function.update_of_ne (Ne.symm named)]
  | discard y =>
    by_cases named : y = id
    · simp [heldStep,reusesSlot,namesId,named]
    · simp [heldStep,reusesSlot,namesId,named,Function.update_of_ne (Ne.symm named)]
  | tick _ => rfl

theorem heldNone : ∀ (trace : List (BufferCall × BufferReply)) {held : UInt32 → Option Ofpbuf},
    held id = none → (∀ e ∈ trace, savedUnder id e = false) → trace.foldl heldStep held id = none
  | [],_,empty,_ => empty
  | e :: trace,held,empty,never => by
    have step : heldStep held e id = none := by
      rw [heldStepAt held (never e List.mem_cons_self),empty]
      exact ite_self none
    exact heldNone trace step fun e' mem => never e' (List.mem_cons_of_mem e mem)

theorem heldThrough : ∀ (mid : List (BufferCall × BufferReply)) (held : UInt32 → Option Ofpbuf),
    (∀ e ∈ mid, savedUnder id e = false) →
    mid.foldl heldStep held id = if mid.all (fun e => !reusesSlot id e && !namesId id e) then held id else none
  | [],held,_ => by simp
  | e :: mid,held,never => by
    rw [List.foldl_cons,heldThrough mid (heldStep held e) fun e' mem => never e' (List.mem_cons_of_mem e mem),
      heldStepAt held (never e List.mem_cons_self),List.all_cons]
    by_cases keep : (!reusesSlot id e && !namesId id e) = true
    · simp only [keep,if_true,Bool.true_and]
    · simp only [keep,if_false,Bool.false_and,Bool.false_eq_true,ite_self]

end Store

section Fresh

theorem saveBufferSaved {dp : Datapath} {b : Ofpbuf} (stored : (saveBuffer dp b).1 ≠ 0xffffffff) :
    slotOf (saveBuffer dp b).1 = nextSlot dp ∧
      (saveBuffer dp b).1 >>> pktBufferBits = cookieNext (dp.buffers (nextSlot dp).toNat).cookie ∧
      ((saveBuffer dp b).2.buffers (nextSlot dp).toNat).cookie = cookieNext (dp.buffers (nextSlot dp).toNat).cookie := by
  by_cases young : (dp.buffers (nextSlot dp).toNat).buffer.isSome ∧ dp.now < (dp.buffers (nextSlot dp).toNat).timeout
  · rw [saveBufferRefused young] at stored
    exact absurd rfl stored
  rw [saveBufferStored young]
  have fits : (nextSlot dp).toNat < 2 ^ pktBufferBits.toNat := slotLt (dp.bufferIdx + 1)
  exact ⟨slotOfPacked fits,cookieOfPacked fits (cookieNextLt _),by simp⟩

theorem retrieveBufferCookie (dp : Datapath) (y : UInt32) (i : Nat) :
    ((retrieveBuffer dp y).2.buffers i).cookie = (dp.buffers i).cookie := by
  rw [retrieveBufferSnd]
  split
  · dsimp only
    by_cases emptied : i = (slotOf y).toNat
    · rw [emptied,Function.update_self]
    · rw [Function.update_of_ne emptied]
  · rfl

theorem bufferCallCookie (dp : Datapath) (call : BufferCall) (id : UInt32) :
    ((bufferCall dp call).2.buffers (slotOf id).toNat).cookie =
      if reusesSlot id (call,(bufferCall dp call).1) then cookieNext (dp.buffers (slotOf id).toNat).cookie
      else (dp.buffers (slotOf id).toNat).cookie := by
  cases call with
  | save b =>
    show ((saveBuffer dp b).2.buffers (slotOf id).toNat).cookie =
      if reusesSlot id (.save b,.saved (saveBuffer dp b).1) then cookieNext (dp.buffers (slotOf id).toNat).cookie
      else (dp.buffers (slotOf id).toNat).cookie
    by_cases refused : (saveBuffer dp b).1 = 0xffffffff
    · have young : (dp.buffers (nextSlot dp).toNat).buffer.isSome ∧ dp.now < (dp.buffers (nextSlot dp).toNat).timeout := by
        by_contra old
        rw [saveBufferStored old] at refused
        exact packedNeMax (slotLt (dp.bufferIdx + 1)) (cookieNextLt _) refused
      rw [saveBufferRefused young]
      simp [reusesSlot]
    obtain ⟨slot,-,filled⟩ := saveBufferSaved refused
    by_cases same : slotOf id = nextSlot dp
    · have reused : reusesSlot id (.save b,.saved (saveBuffer dp b).1) = true := by
        simp [reusesSlot,refused,slot,same]
      rw [if_pos reused,same,filled]
    · have apart : reusesSlot id (.save b,.saved (saveBuffer dp b).1) = false := by
        simp [reusesSlot,slot,Ne.symm same]
      have other : (slotOf id).toNat ≠ (nextSlot dp).toNat := fun eq => same (UInt32.toNat_inj.mp eq)
      by_cases young : (dp.buffers (nextSlot dp).toNat).buffer.isSome ∧ dp.now < (dp.buffers (nextSlot dp).toNat).timeout
      · rw [saveBufferRefused young] at refused
        exact absurd rfl refused
      rw [apart,saveBufferStored young]
      simp [Function.update_of_ne other]
  | retrieve y => simp [bufferCall,reusesSlot,retrieveBufferCookie]
  | discard y => simp [bufferCall,discardBuffer,reusesSlot,retrieveBufferCookie]
  | tick _ => simp [bufferCall,reusesSlot]

theorem savedAgainFar {s : Datapath} {ops : List BufferCall} {mid rest : List (BufferCall × BufferReply)} {id : UInt32}
    (run : answers bufferCall s ops = mid ++ rest)
    (cookie : (s.buffers (slotOf id).toNat).cookie = id >>> pktBufferBits)
    (small : (id >>> pktBufferBits).toNat < 0xffffff) (few : mid.countP (reusesSlot id) < 0xffffff) :
    ∀ e ∈ mid, savedUnder id e = false := by
  intro e mem
  cases again : savedUnder id e with
  | false => rfl
  | true =>
    exfalso
    obtain ⟨m1,m2,rfl⟩ := List.append_of_mem mem
    rw [List.append_assoc,List.cons_append] at run
    obtain ⟨before,answer,-⟩ := answersSplit bufferCall run
    have track := answersInvariant bufferCall
      (I := fun s' t => (s'.buffers (slotOf id).toNat).cookie = cookieNext^[t.countP (reusesSlot id)] (id >>> pktBufferBits))
      (fun s' t call now => by
        rw [bufferCallCookie,now,List.countP_append,List.countP_singleton]
        split
        · rw [Function.iterate_succ_apply']
        · rfl)
      cookie (m1.map Prod.fst)
    rw [← before] at track
    obtain ⟨call,reply⟩ := e
    cases call with
    | save b =>
      cases reply with
      | saved id' =>
        simp only [savedUnder,Bool.and_eq_true,beq_iff_eq,bne_iff_ne,ne_eq] at again
        obtain ⟨same,stored⟩ := again
        subst id'
        simp only [bufferCall,BufferReply.saved.injEq] at answer
        rw [answer] at stored
        obtain ⟨slot,next,-⟩ := saveBufferSaved stored
        have reused : reusesSlot id (.save b,.saved id) = true := by
          rw [answer]
          simp [reusesSlot,stored]
        have far : m1.countP (reusesSlot id) + 1 < 0xffffff := by
          rw [List.countP_append,List.countP_cons,if_pos reused] at few
          omega
        set s' := after bufferCall s (List.map Prod.fst m1)
        have idSlot : slotOf id = nextSlot s' := by
          rw [answer]
          exact slot
        have idCookie : id >>> pktBufferBits = cookieNext (s'.buffers (nextSlot s').toNat).cookie := by
          rw [answer]
          exact next
        have back : cookieNext^[m1.countP (reusesSlot id) + 1] (id >>> pktBufferBits) = id >>> pktBufferBits := by
          rw [Function.iterate_succ_apply',← track,idSlot,idCookie]
        exact cookieIterateNe small (Nat.succ_pos _) far back
      | retrieved _ => simp [savedUnder] at again
      | done => simp [savedUnder] at again
    | retrieve _ => simp [savedUnder] at again
    | discard _ => simp [savedUnder] at again
    | tick _ => simp [savedUnder] at again

theorem saveBufferRefuses (dp : Datapath) (b : Ofpbuf) :
    (saveBuffer dp b).1 = 0xffffffff ↔ (saveBuffer dp b).2.buffers = dp.buffers := by
  by_cases young : (dp.buffers (nextSlot dp).toNat).buffer.isSome ∧ dp.now < (dp.buffers (nextSlot dp).toNat).timeout
  · rw [saveBufferRefused young]
    exact iff_of_true rfl rfl
  have fits : (nextSlot dp).toNat < 2 ^ pktBufferBits.toNat := slotLt (dp.bufferIdx + 1)
  rw [saveBufferStored young]
  dsimp only
  refine iff_of_false (packedNeMax fits (cookieNextLt _)) fun same => ?_
  have filled := congrFun same (nextSlot dp).toNat
  rw [Function.update_self] at filled
  exact cookieNextNe _ (congrArg PacketBuffer.cookie filled)

theorem discardMaxIdle {dp : Datapath} (cookies : CookiesBelow dp) : discardBuffer dp 0xffffffff = dp := by
  rw [discardBuffer,retrieveBufferSnd,if_neg]
  intro hit
  have top : (0xffffffff : UInt32) >>> pktBufferBits = 0xffffff := by decide
  have below := cookies (slotOf 0xffffffff).toNat
  rw [hit,top] at below
  exact absurd below (by decide)

end Fresh

/- For every sequence of calls from the zero-filled buffers: a retrieve of an id no save buffered under
returns nothing; a retrieve of an id a save returned, with fewer than 2^24 - 1 saves into its slot in between,
returns that save's packet if no save reused the slot and no retrieve or discard named the id in between, and
nothing otherwise; save_buffer answers UINT32_MAX exactly when it buffered nothing; and
discard_buffer(UINT32_MAX) changes nothing. -/
theorem bufferIdsFresh (dp : Datapath) (calls : List BufferCall) :
    (∀ pre id r post, bufferTrace dp calls = pre ++ (.retrieve id,r) :: post →
      (∀ e ∈ pre, savedUnder id e = false) → r = .retrieved none) ∧
    (∀ pre b id mid r post, bufferTrace dp calls = pre ++ (.save b,.saved id) :: mid ++ (.retrieve id,r) :: post →
      id ≠ 0xffffffff → mid.countP (reusesSlot id) < 2 ^ 24 - 1 →
      r = .retrieved (if mid.all (fun e => !reusesSlot id e && !namesId id e) then some (ofpbufClone b) else none)) ∧
    (∀ (s : Datapath) (b : Ofpbuf), (saveBuffer s b).1 = 0xffffffff ↔ (saveBuffer s b).2.buffers = s.buffers) ∧
    discardBuffer (after bufferCall (bufferInit dp) calls) 0xffffffff = after bufferCall (bufferInit dp) calls := by
  refine ⟨?_,?_,saveBufferRefuses,discardMaxIdle (heldAgrees dp calls).cookies⟩
  · intro pre id r post split never
    rw [retrieveHeld split]
    exact congrArg _ (heldNone pre rfl never)
  · intro pre b id mid r post split stored few
    have atSave : bufferTrace dp calls = pre ++ (.save b,.saved id) :: (mid ++ (.retrieve id,r) :: post) := by
      rw [split,List.append_assoc,List.cons_append]
    rw [retrieveHeld split]
    obtain ⟨-,answer,later⟩ := answersSplit bufferCall atSave
    simp only [bufferCall,BufferReply.saved.injEq] at answer
    have saved : (saveBuffer (after bufferCall (bufferInit dp) (pre.map Prod.fst)) b).1 ≠ 0xffffffff := by
      rw [← answer]
      exact stored
    obtain ⟨slot,next,filled⟩ := saveBufferSaved saved
    have idSlot : slotOf id = nextSlot (after bufferCall (bufferInit dp) (pre.map Prod.fst)) := by
      rw [answer]
      exact slot
    have idCookie : id >>> pktBufferBits =
        cookieNext ((after bufferCall (bufferInit dp) (pre.map Prod.fst)).buffers
          (nextSlot (after bufferCall (bufferInit dp) (pre.map Prod.fst))).toNat).cookie := by
      rw [answer]
      exact next
    have cookie : ((bufferCall (after bufferCall (bufferInit dp) (pre.map Prod.fst)) (.save b)).2.buffers
        (slotOf id).toNat).cookie = id >>> pktBufferBits := by
      rw [idSlot,idCookie]
      exact filled
    have small : (id >>> pktBufferBits).toNat < 0xffffff := by
      rw [idCookie]
      exact cookieNextLt _
    have limit : (2 : Nat) ^ 24 - 1 = 0xffffff := by norm_num
    rw [limit] at few
    have fresh := savedAgainFar later.symm cookie small few
    rw [heldAfter,List.foldl_append,List.foldl_cons,heldThrough mid _ fresh]
    simp only [heldStep,if_neg stored,if_true]

/- An idle datapath whose buffers a save, a retrieve and another retrieve reach. -/
def idleDatapath : Datapath := ⟨Chain.chainCreate,[],0,0,fun _ => ⟨none,0,0⟩,0,0,0,[]⟩

def savedPacket : Ofpbuf := ⟨[1,2,3],0,3,none,none,none,none⟩

theorem savedPacketOnce :
    bufferTrace idleDatapath [.retrieve 257,.save savedPacket,.retrieve 257] =
        [] ++ (.retrieve 257,.retrieved none) :: [(.save savedPacket,.saved 257),(.retrieve 257,.retrieved (some (ofpbufClone savedPacket)))] ∧
      BufferReply.retrieved none = .retrieved none ∧
      bufferTrace idleDatapath [.retrieve 257,.save savedPacket,.retrieve 257] =
        [(.retrieve 257,.retrieved none)] ++ (.save savedPacket,.saved 257) :: [] ++ (.retrieve 257,.retrieved (some (ofpbufClone savedPacket))) :: [] ∧
      BufferReply.retrieved (some (ofpbufClone savedPacket)) = .retrieved (some (ofpbufClone savedPacket)) := by
  have trace : bufferTrace idleDatapath [.retrieve 257,.save savedPacket,.retrieve 257] =
      [(.retrieve 257,.retrieved none),(.save savedPacket,.saved 257),(.retrieve 257,.retrieved (some (ofpbufClone savedPacket)))] := by
    decide
  have fresh := bufferIdsFresh idleDatapath [.retrieve 257,.save savedPacket,.retrieve 257]
  refine ⟨trace,fresh.1 [] 257 _ _ trace (by simp),trace,?_⟩
  exact (fresh.2.1 [(.retrieve 257,.retrieved none)] savedPacket 257 [] _ [] trace (by decide) (by decide)).trans (by simp)

end OpenFlow.Buffers
