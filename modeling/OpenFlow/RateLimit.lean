import Mathlib
import OpenFlow.Datapath

/-! The packet-in rate limiter of the secure channel (secchan/ratelimit.c). -/
namespace OpenFlow.RateLimit
open Datapath

/- One queue for each port below OFPP_MAX. -/
def ofppMaxN : Nat := 0xff00

theorem ofppMaxPos : 0 < ofppMaxN := by decide

/- The two struct settings fields the limiter reads. -/
structure Settings where
  rateLimit : Int
  burstLimit : Int

/- struct rate_limiter; `nextBuffer` is the name the next clone gets. -/
structure RateLimiter where
  queues : Fin ofppMaxN → List Nat
  nQueued : Int
  nextTxPort : Nat
  lastFill : Int
  tokens : Int
  nextBuffer : Nat

/- The scan of drop_packet: the longest queue so far and how many queues of its length were seen. -/
def longestScan (queues : Fin ofppMaxN → List Nat) (rand : Fin ofppMaxN → Nat) :
    List (Fin ofppMaxN) → Fin ofppMaxN × Nat → Fin ofppMaxN × Nat
  | [], acc => acc
  | q :: qs, acc =>
    if (queues acc.1).length < (queues q).length then longestScan queues rand qs (q,1)
    else if (queues acc.1).length = (queues q).length then
      longestScan queues rand qs (if rand q % (acc.2 + 1) = 0 then q else acc.1,acc.2 + 1)
    else longestScan queues rand qs acc

/- drop_packet: the head of the queue the scan picks is freed; queue_pop_head reads through a null head on an
empty queue. -/
def dropPacket (rl : RateLimiter) (rand : Fin ofppMaxN → Nat) : Except Halt (RateLimiter × Nat) :=
  let longest := (longestScan rl.queues rand (List.finRange ofppMaxN) (⟨0,ofppMaxPos⟩,1)).1
  match rl.queues longest with
  | [] => .error .nullDeref
  | b :: rest => .ok ({ rl with queues := Function.update rl.queues longest rest,nQueued := rl.nQueued - 1 },b)

/- dequeue_packet's loop, from the `i`-th port after next_tx_port, with `k` ports left to look at; NOT_REACHED
when every queue is empty. -/
def dequeueLoop (rl : RateLimiter) : Nat → Nat → Except Halt (RateLimiter × Nat)
  | 0, _ => .error .assertFailed
  | k + 1, i =>
    let port : Fin ofppMaxN := ⟨(rl.nextTxPort + i) % ofppMaxN,Nat.mod_lt _ ofppMaxPos⟩
    match rl.queues port with
    | b :: rest =>
      .ok ({ rl with
          queues := Function.update rl.queues port rest
          nextTxPort := (port.val + 1) % ofppMaxN
          nQueued := rl.nQueued - 1 },b)
    | [] => dequeueLoop rl k (i + 1)

def dequeuePacket (rl : RateLimiter) : Except Halt (RateLimiter × Nat) := dequeueLoop rl ofppMaxN 0

/- refill_bucket at time_msec() = `now`. -/
def refillBucket (s : Settings) (rl : RateLimiter) (now : Int) : RateLimiter :=
  let tokens := (now - rl.lastFill) * s.rateLimit + rl.tokens
  if tokens ≥ 1000 then { rl with lastFill := now,tokens := min tokens (s.burstLimit * 1000) } else rl

/- get_token: the limiter with the tokens taken, or none when too few. -/
def getToken (rl : RateLimiter) : Option RateLimiter :=
  if rl.tokens ≥ 1000 then some { rl with tokens := rl.tokens - 1000 } else none

/- What rate_limit_local_packet_cb does with a packet-in: let it through untouched (OFPR_ACTION), on the
normal path with a token, or queue a clone, first dropping a packet when burst_limit are queued. -/
inductive Verdict where
  | passed
  | normal
  | queued (dropped : Option Nat)

def rateLimitLocalPacketCb (s : Settings) (rl : RateLimiter) (reason : UInt8) (inPort : UInt16)
    (rand : Fin ofppMaxN → Nat) : Except Halt (RateLimiter × Verdict) :=
  if reason = ofprAction then .ok (rl,.passed)
  else
    match (if rl.nQueued = 0 then getToken rl else none) with
    | some rl => .ok (rl,.normal)
    | none => do
      let port : Fin ofppMaxN := ⟨inPort.toNat % ofppMaxN,Nat.mod_lt _ ofppMaxPos⟩
      let made ← if rl.nQueued ≥ s.burstLimit then (dropPacket rl rand).map fun r => (r.1,some r.2)
        else pure (rl,none)
      let rl := made.1
      pure ({ rl with
          queues := Function.update rl.queues port (rl.queues port ++ [rl.nextBuffer])
          nQueued := rl.nQueued + 1
          nextBuffer := rl.nextBuffer + 1 },.queued made.2)

/- The loop of rate_limit_periodic_cb with `left` of its 50 passes to go. -/
def drainLoop : Nat → RateLimiter → Except Halt (RateLimiter × List Nat)
  | left, rl =>
    if rl.nQueued = 0 then .ok (rl,[])
    else
      match getToken rl with
      | none => .ok (rl,[])
      | some rl =>
        match left with
        | 0 => .ok (rl,[])
        | left + 1 => do
          let sent ← dequeuePacket rl
          let rest ← drainLoop left sent.1
          pure (rest.1,sent.2 :: rest.2)

/- rate_limit_periodic_cb at time `now`: the buffers handed to the remote rconn, in order. -/
def rateLimitPeriodicCb (s : Settings) (rl : RateLimiter) (now : Int) : Except Halt (RateLimiter × List Nat) :=
  drainLoop 50 (refillBucket s rl now)

/- rate_limit_start at time `now`. -/
def rateLimitStart (s : Settings) (now : Int) : RateLimiter :=
  ⟨fun _ => [],0,0,now,s.rateLimit * 100,0⟩

inductive RlEvent where
  | packetIn (reason : UInt8) (inPort : UInt16) (rand : Fin ofppMaxN → Nat)
  | periodic (now : Int)

inductive RlOut where
  | local (v : Verdict)
  | periodic (sent : List Nat)

def rlStep (s : Settings) (rl : RateLimiter) : RlEvent → Except Halt (RateLimiter × RlOut)
  | .packetIn reason inPort rand => (rateLimitLocalPacketCb s rl reason inPort rand).map fun r => (r.1,.local r.2)
  | .periodic now => (rateLimitPeriodicCb s rl now).map fun r => (r.1,.periodic r.2)

def rlRun (s : Settings) (rl : RateLimiter) : List RlEvent → Except Halt (RateLimiter × List RlOut)
  | [] => .ok (rl,[])
  | ev :: evs => do
    let first ← rlStep s rl ev
    let rest ← rlRun s first.1 evs
    pure (rest.1,first.2 :: rest.2)

section Queues

/- Every buffer the queues hold, port by port. -/
def contents (queues : Fin ofppMaxN → List Nat) : List Nat := (List.ofFn queues).flatten

theorem contentsLength (queues : Fin ofppMaxN → List Nat) : (contents queues).length = ∑ i, (queues i).length := by
  simp [contents,List.length_flatten,List.sum_ofFn]

theorem contentsUpdate (queues : Fin ofppMaxN → List Nat) (p : Fin ofppMaxN) (l : List Nat) :
    (contents (Function.update queues p l) ++ queues p).Perm (contents queues ++ l) := by
  obtain ⟨pre,post,split⟩ := List.append_of_mem (List.mem_finRange p)
  have distinct : (pre ++ p :: post).Nodup := split ▸ List.nodup_finRange ofppMaxN
  have notPre : p ∉ pre := fun mem => (List.nodup_middle.mp distinct |> List.nodup_cons.mp).1 (List.mem_append_left _ mem)
  have notPost : p ∉ post := fun mem => (List.nodup_middle.mp distinct |> List.nodup_cons.mp).1 (List.mem_append_right _ mem)
  have same : ∀ l' : List (Fin ofppMaxN), p ∉ l' → l'.map (Function.update queues p l) = l'.map queues := by
    intro l' absent
    refine List.map_congr_left fun q mem => ?_
    exact Function.update_of_ne (by rintro rfl; exact absent mem) _ _
  simp only [contents,List.ofFn_eq_map,split,List.map_append,List.map_cons,same pre notPre,same post notPost,
    Function.update_self,List.flatten_append,List.flatten_cons]
  rw [List.perm_iff_count]
  intro a
  simp only [List.count_append]
  omega

/- What dropping or dequeuing a packet does: the head of one queue leaves, and the count goes down by one. -/
structure Popped (rl rl' : RateLimiter) (b : Nat) : Prop where
  at_ : ∃ p rest, rl.queues p = b :: rest ∧ rl'.queues = Function.update rl.queues p rest
  counted : rl'.nQueued = rl.nQueued - 1
  tokens : rl'.tokens = rl.tokens
  lastFill : rl'.lastFill = rl.lastFill
  nextBuffer : rl'.nextBuffer = rl.nextBuffer

theorem Popped.perm {rl rl' : RateLimiter} {b : Nat} (popped : Popped rl rl' b) :
    (b :: contents rl'.queues).Perm (contents rl.queues) := by
  obtain ⟨p,rest,head,queues⟩ := popped.at_
  have moved := contentsUpdate rl.queues p rest
  rw [head,← queues] at moved
  rw [List.perm_iff_count] at moved ⊢
  intro a
  have counts := moved a
  simp only [List.count_append,List.count_cons] at counts ⊢
  omega

theorem Popped.length {rl rl' : RateLimiter} {b : Nat} (popped : Popped rl rl' b) :
    (contents rl'.queues).length + 1 = (contents rl.queues).length := by
  simpa using popped.perm.length_eq

theorem contentsNonempty {queues : Fin ofppMaxN → List Nat} (full : contents queues ≠ []) : ∃ p, queues p ≠ [] := by
  by_contra empty
  push Not at empty
  apply full
  simp [contents,List.flatten_eq_nil_iff,empty]

end Queues

section Scan

theorem longestScanGe (queues : Fin ofppMaxN → List Nat) (rand : Fin ofppMaxN → Nat) :
    ∀ (l : List (Fin ofppMaxN)) (acc : Fin ofppMaxN × Nat),
      (queues acc.1).length ≤ (queues (longestScan queues rand l acc).1).length ∧
        ∀ q ∈ l, (queues q).length ≤ (queues (longestScan queues rand l acc).1).length
  | [], acc => ⟨le_refl _,fun _ mem => absurd mem List.not_mem_nil⟩
  | q :: qs, acc => by
    unfold longestScan
    split
    · -- a longer queue takes over
      rename_i longer
      obtain ⟨start,rest⟩ := longestScanGe queues rand qs (q,1)
      refine ⟨le_trans (le_of_lt longer) start,fun q' mem => ?_⟩
      rcases List.mem_cons.mp mem with rfl | later
      · exact start
      · exact rest q' later
    · split
      · -- a tie: whichever is kept has the same length
        rename_i _ tie
        obtain ⟨start,rest⟩ := longestScanGe queues rand qs (if rand q % (acc.2 + 1) = 0 then q else acc.1,acc.2 + 1)
        have kept : (queues (if rand q % (acc.2 + 1) = 0 then q else acc.1)).length = (queues acc.1).length := by
          split
          · exact tie.symm
          · rfl
        rw [kept] at start
        refine ⟨start,fun q' mem => ?_⟩
        rcases List.mem_cons.mp mem with rfl | later
        · exact tie ▸ start
        · exact rest q' later
      · rename_i shorter
        obtain ⟨start,rest⟩ := longestScanGe queues rand qs acc
        refine ⟨start,fun q' mem => ?_⟩
        rcases List.mem_cons.mp mem with rfl | later
        · omega
        · exact rest q' later

theorem dropPacketPopped {rl : RateLimiter} (rand : Fin ofppMaxN → Nat) (full : contents rl.queues ≠ []) :
    ∃ rl' b, dropPacket rl rand = .ok (rl',b) ∧ Popped rl rl' b := by
  obtain ⟨p,nonempty⟩ := contentsNonempty full
  have longest := (longestScanGe rl.queues rand (List.finRange ofppMaxN) (⟨0,ofppMaxPos⟩,1)).2 p (List.mem_finRange p)
  unfold dropPacket
  dsimp only
  split
  · rename_i empty
    rw [empty] at longest
    exact absurd (List.eq_nil_of_length_eq_zero (Nat.le_zero.mp longest)) nonempty
  · rename_i b rest head
    exact ⟨_,b,rfl,⟨⟨_,rest,head,rfl⟩,rfl,rfl,rfl,rfl⟩⟩

theorem dequeueLoopPopped (rl : RateLimiter) :
    ∀ (k i : Nat), (∃ j, i ≤ j ∧ j < i + k ∧ rl.queues ⟨(rl.nextTxPort + j) % ofppMaxN,Nat.mod_lt _ ofppMaxPos⟩ ≠ []) →
      ∃ rl' b, dequeueLoop rl k i = .ok (rl',b) ∧ Popped rl rl' b
  | 0, i, ⟨j,low,high,_⟩ => absurd high (by omega)
  | k + 1, i, ⟨j,low,high,nonempty⟩ => by
    unfold dequeueLoop
    dsimp only
    split
    · rename_i b rest head
      exact ⟨_,b,rfl,⟨⟨_,rest,head,rfl⟩,rfl,rfl,rfl,rfl⟩⟩
    · rename_i empty
      have later : i ≠ j := fun same => nonempty (same ▸ empty)
      exact dequeueLoopPopped rl k (i + 1) ⟨j,by omega,by omega,nonempty⟩

theorem dequeuePacketPopped {rl : RateLimiter} (full : contents rl.queues ≠ []) :
    ∃ rl' b, dequeuePacket rl = .ok (rl',b) ∧ Popped rl rl' b := by
  obtain ⟨p,nonempty⟩ := contentsNonempty full
  refine dequeueLoopPopped rl ofppMaxN 0 ⟨(p.val + ofppMaxN - rl.nextTxPort % ofppMaxN) % ofppMaxN,Nat.zero_le _,
    by simpa using Nat.mod_lt _ ofppMaxPos,?_⟩
  have lt := p.isLt
  have wrap : (rl.nextTxPort + (p.val + ofppMaxN - rl.nextTxPort % ofppMaxN) % ofppMaxN) % ofppMaxN = p.val := by
    unfold ofppMaxN at lt ⊢
    omega
  have same : (⟨(rl.nextTxPort + (p.val + ofppMaxN - rl.nextTxPort % ofppMaxN) % ofppMaxN) % ofppMaxN,
      Nat.mod_lt _ ofppMaxPos⟩ : Fin ofppMaxN) = p := Fin.ext wrap
  rw [same]
  exact nonempty

end Scan

section Accounting

/- What a run releases and frees: packet-ins let through on the normal path, the buffers handed to the remote
rconn, and those drop_packet frees. -/
def RlOut.normal : RlOut → Nat
  | .local .normal => 1
  | _ => 0

def RlOut.sent : RlOut → List Nat
  | .periodic sent => sent
  | _ => []

def RlOut.dropped : RlOut → List Nat
  | .local (.queued (some b)) => [b]
  | _ => []

def normalCount (outs : List RlOut) : Nat := (outs.map RlOut.normal).sum

def sentOf (outs : List RlOut) : List Nat := outs.flatMap RlOut.sent

def droppedOf (outs : List RlOut) : List Nat := outs.flatMap RlOut.dropped

/- The times time_msec() gives the periodic callbacks. -/
def RlEvent.times : RlEvent → List Int
  | .periodic now => [now]
  | .packetIn .. => []

def periodicTimes (evs : List RlEvent) : List Int := evs.flatMap RlEvent.times

/- The limiter after a run that started at `t0` with the callbacks at `times`, having let `normal` packets
through, sent `sent` and dropped `dropped`: the queue count is right and within the burst, every buffer made
is sent, dropped or queued exactly once, and the tokens spent and left are never more than the first ones and
what rate_limit added since. -/
structure Good (s : Settings) (t0 : Int) (times : List Int) (rl : RateLimiter) (normal : Nat)
    (sent dropped : List Nat) : Prop where
  queued : rl.nQueued = (contents rl.queues).length
  bounded : rl.nQueued ≤ s.burstLimit
  conserved : (sent ++ dropped ++ contents rl.queues).Perm (List.range rl.nextBuffer)
  nonneg : 0 ≤ rl.tokens
  budget : 1000 * ((normal + sent.length : Nat) : Int) + rl.tokens ≤ s.rateLimit * 100 + s.rateLimit * (rl.lastFill - t0)
  filled : rl.lastFill = t0 ∨ rl.lastFill ∈ times

section Steps
variable {s : Settings} {t0 : Int} {times : List Int} {rl : RateLimiter} {normal : Nat} {sent dropped : List Nat}

theorem goodStart (rate : 1 ≤ s.rateLimit) (burst : 1 ≤ s.burstLimit) (t0 : Int) :
    Good s t0 [] (rateLimitStart s t0) 0 [] [] where
  queued := by simp [rateLimitStart,contents]
  bounded := by simp only [rateLimitStart]; omega
  conserved := by simp [rateLimitStart,contents]
  nonneg := by simp only [rateLimitStart]; omega
  budget := by simp [rateLimitStart]
  filled := Or.inl rfl

theorem getTokenSome {rl' : RateLimiter} (taken : getToken rl = some rl') :
    1000 ≤ rl.tokens ∧ rl' = { rl with tokens := rl.tokens - 1000 } := by
  unfold getToken at taken
  split at taken
  · exact ⟨by assumption,(Option.some.inj taken).symm⟩
  · cases taken

theorem Good.spend (good : Good s t0 times rl normal sent dropped) (enough : 1000 ≤ rl.tokens) :
    Good s t0 times { rl with tokens := rl.tokens - 1000 } normal sent dropped where
  queued := good.queued
  bounded := good.bounded
  conserved := good.conserved
  nonneg := by dsimp only; omega
  budget := by dsimp only; linarith [good.budget]
  filled := good.filled

theorem Good.release (good : Good s t0 times rl normal sent dropped) (enough : 1000 ≤ rl.tokens) :
    Good s t0 times { rl with tokens := rl.tokens - 1000 } (normal + 1) sent dropped where
  queued := good.queued
  bounded := good.bounded
  conserved := good.conserved
  nonneg := by dsimp only; omega
  budget := by
    have before := good.budget
    dsimp only
    push_cast at before ⊢
    linarith
  filled := good.filled

theorem Good.transmit {rl' : RateLimiter} {b : Nat} (good : Good s t0 times rl normal sent dropped)
    (enough : 1000 ≤ rl.tokens) (popped : Popped { rl with tokens := rl.tokens - 1000 } rl' b) :
    Good s t0 times rl' normal (sent ++ [b]) dropped where
  queued := by
    have shorter := popped.length
    rw [popped.counted]
    dsimp only at shorter ⊢
    rw [good.queued,← shorter]
    push_cast
    ring
  bounded := by
    rw [popped.counted]
    linarith [good.bounded]
  conserved := by
    have moved := popped.perm
    rw [popped.nextBuffer]
    refine List.Perm.trans ?_ good.conserved
    rw [List.perm_iff_count] at moved ⊢
    intro a
    have counts := moved a
    simp only [List.count_append,List.count_cons,List.count_nil] at counts ⊢
    omega
  nonneg := by rw [popped.tokens]; dsimp only; omega
  budget := by
    have before := good.budget
    rw [popped.tokens,popped.lastFill]
    dsimp only
    simp only [List.length_append,List.length_singleton] at before ⊢
    push_cast at before ⊢
    linarith
  filled := popped.lastFill ▸ good.filled

theorem contentsPush (queues : Fin ofppMaxN → List Nat) (p : Fin ofppMaxN) (x : Nat) :
    (contents (Function.update queues p (queues p ++ [x]))).Perm (contents queues ++ [x]) := by
  have moved := contentsUpdate queues p (queues p ++ [x])
  rw [List.perm_iff_count] at moved ⊢
  intro a
  have counts := moved a
  simp only [List.count_append] at counts ⊢
  omega

theorem Good.drop {rl' : RateLimiter} {b : Nat} (good : Good s t0 times rl normal sent dropped)
    (popped : Popped rl rl' b) : Good s t0 times rl' normal sent (dropped ++ [b]) where
  queued := by
    have shorter := popped.length
    rw [popped.counted,good.queued,← shorter]
    push_cast
    ring
  bounded := by
    rw [popped.counted]
    linarith [good.bounded]
  conserved := by
    have moved := popped.perm
    rw [popped.nextBuffer]
    refine List.Perm.trans ?_ good.conserved
    rw [List.perm_iff_count] at moved ⊢
    intro a
    have counts := moved a
    simp only [List.count_append,List.count_cons,List.count_nil] at counts ⊢
    omega
  nonneg := popped.tokens ▸ good.nonneg
  budget := popped.tokens ▸ popped.lastFill ▸ good.budget
  filled := popped.lastFill ▸ good.filled

theorem Good.enqueue (good : Good s t0 times rl normal sent dropped) (room : rl.nQueued < s.burstLimit)
    (port : Fin ofppMaxN) :
    Good s t0 times { rl with
        queues := Function.update rl.queues port (rl.queues port ++ [rl.nextBuffer])
        nQueued := rl.nQueued + 1
        nextBuffer := rl.nextBuffer + 1 } normal sent dropped where
  queued := by
    have longer := (contentsPush rl.queues port rl.nextBuffer).length_eq
    dsimp only
    rw [longer,good.queued,List.length_append,List.length_singleton]
    push_cast
    rfl
  bounded := by
    dsimp only
    omega
  conserved := by
    have pushed := contentsPush rl.queues port rl.nextBuffer
    dsimp only
    rw [List.range_succ]
    refine List.Perm.trans ?_ (good.conserved.append_right [rl.nextBuffer])
    rw [List.append_assoc,List.append_assoc,List.append_assoc]
    exact (pushed.append_left dropped).append_left sent
  nonneg := good.nonneg
  budget := good.budget
  filled := good.filled

theorem Good.refill (good : Good s t0 times rl normal sent dropped) (burst : 1 ≤ s.burstLimit) (now : Int) :
    Good s t0 (times ++ [now]) (refillBucket s rl now) normal sent dropped := by
  unfold refillBucket
  dsimp only
  split
  · rename_i enough
    have before := good.budget
    have clamped := min_le_left ((now - rl.lastFill) * s.rateLimit + rl.tokens) (s.burstLimit * 1000)
    exact
      { queued := good.queued
        bounded := good.bounded
        conserved := good.conserved
        nonneg := le_min (by omega) (by omega)
        budget := by dsimp only; linarith
        filled := Or.inr (List.mem_append_right _ (List.mem_singleton_self now)) }
  · exact
      { queued := good.queued
        bounded := good.bounded
        conserved := good.conserved
        nonneg := good.nonneg
        budget := good.budget
        filled := good.filled.imp_right (List.mem_append_left _) }

theorem Good.full (good : Good s t0 times rl normal sent dropped) (queued : rl.nQueued ≠ 0) :
    contents rl.queues ≠ [] := by
  intro empty
  apply queued
  rw [good.queued,empty]
  rfl

theorem drainGood (left : Nat) (rl : RateLimiter) (good : Good s t0 times rl normal sent dropped) :
    ∃ rl' more, drainLoop left rl = .ok (rl',more) ∧ Good s t0 times rl' normal (sent ++ more) dropped := by
  fun_induction drainLoop left rl generalizing sent
  case case1 rl idle => exact ⟨rl,[],rfl,by simpa using good⟩
  case case2 rl busy none => exact ⟨rl,[],rfl,by simpa using good⟩
  case case3 rl busy rl1 taken =>
    obtain ⟨enough,rfl⟩ := getTokenSome taken
    exact ⟨_,[],rfl,by simpa using good.spend enough⟩
  case case4 rl busy rl1 taken left ih =>
    obtain ⟨enough,rfl⟩ := getTokenSome taken
    have full : contents ({ rl with tokens := rl.tokens - 1000 } : RateLimiter).queues ≠ [] := good.full busy
    obtain ⟨rl2,b,dequeued,popped⟩ := dequeuePacketPopped full
    obtain ⟨rl3,more,rest,good3⟩ := ih (rl2,b) (good.transmit enough popped)
    refine ⟨rl3,b :: more,?_,by simpa using good3⟩
    simp only [dequeued,rest,bind,Except.bind,pure,Except.pure]

theorem localGood (good : Good s t0 times rl normal sent dropped) (burst : 1 ≤ s.burstLimit) (reason : UInt8)
    (inPort : UInt16) (rand : Fin ofppMaxN → Nat) :
    ∃ rl' v, rateLimitLocalPacketCb s rl reason inPort rand = .ok (rl',v) ∧
      Good s t0 times rl' (normal + (RlOut.local v).normal) (sent ++ (RlOut.local v).sent)
        (dropped ++ (RlOut.local v).dropped) := by
  unfold rateLimitLocalPacketCb
  split
  · exact ⟨rl,.passed,rfl,by simpa [RlOut.normal,RlOut.sent,RlOut.dropped] using good⟩
  · split
    · rename_i rl1 taken
      split at taken
      · obtain ⟨enough,rfl⟩ := getTokenSome taken
        exact ⟨_,.normal,rfl,by simpa [RlOut.normal,RlOut.sent,RlOut.dropped] using good.release enough⟩
      · cases taken
    · -- the clone goes on the queue of in_port % OFPP_MAX
      let port : Fin ofppMaxN := ⟨inPort.toNat % ofppMaxN,Nat.mod_lt _ ofppMaxPos⟩
      by_cases full : rl.nQueued ≥ s.burstLimit
      · obtain ⟨rl1,b,drop,popped⟩ := dropPacketPopped rand (good.full (by omega))
        have room : rl1.nQueued < s.burstLimit := by
          rw [popped.counted]
          linarith [good.bounded]
        refine ⟨_,.queued (some b),?_,by simpa [RlOut.normal,RlOut.sent,RlOut.dropped] using (good.drop popped).enqueue room port⟩
        simp only [full,if_true,drop,Except.map,bind,Except.bind,pure,Except.pure]
        rfl
      · refine ⟨_,.queued none,?_,by simpa [RlOut.normal,RlOut.sent,RlOut.dropped] using good.enqueue (by omega) port⟩
        simp only [full,if_false,bind,Except.bind,pure,Except.pure]
        rfl

theorem stepGood (good : Good s t0 times rl normal sent dropped) (burst : 1 ≤ s.burstLimit) (ev : RlEvent) :
    ∃ rl' out, rlStep s rl ev = .ok (rl',out) ∧
      Good s t0 (times ++ ev.times) rl' (normal + out.normal) (sent ++ out.sent) (dropped ++ out.dropped) := by
  cases ev with
  | packetIn reason inPort rand =>
    obtain ⟨rl',v,cb,good'⟩ := localGood good burst reason inPort rand
    exact ⟨rl',.local v,by simp [rlStep,cb,Except.map],by simpa [RlEvent.times] using good'⟩
  | periodic now =>
    obtain ⟨rl',more,cb,good'⟩ := drainGood 50 _ (good.refill burst now)
    refine ⟨rl',.periodic more,?_,by simpa [RlEvent.times,RlOut.normal,RlOut.sent,RlOut.dropped] using good'⟩
    simp [rlStep,rateLimitPeriodicCb,cb,Except.map]

end Steps

theorem runGood {s : Settings} {t0 : Int} (burst : 1 ≤ s.burstLimit) (evs : List RlEvent) :
    ∀ {times : List Int} {rl : RateLimiter} {normal : Nat} {sent dropped : List Nat},
      Good s t0 times rl normal sent dropped →
        ∃ rl' outs, rlRun s rl evs = .ok (rl',outs) ∧
          Good s t0 (times ++ periodicTimes evs) rl' (normal + normalCount outs) (sent ++ sentOf outs)
            (dropped ++ droppedOf outs) := by
  induction evs with
  | nil =>
    intro times rl normal sent dropped good
    exact ⟨rl,[],rfl,by simpa [periodicTimes,normalCount,sentOf,droppedOf] using good⟩
  | cons ev evs ih =>
    intro times rl normal sent dropped good
    obtain ⟨rl1,out,step,good1⟩ := stepGood good burst ev
    obtain ⟨rl2,outs,run,good2⟩ := ih good1
    refine ⟨rl2,out :: outs,?_,?_⟩
    · simp [rlRun,step,run,bind,Except.bind,pure,Except.pure]
    · simpa [periodicTimes,normalCount,sentOf,droppedOf,Nat.add_assoc] using good2

theorem rateLimitRunConforms (s : Settings) (rate : 1 ≤ s.rateLimit) (burst : 1 ≤ s.burstLimit) (t0 : Int)
    (evs : List RlEvent) :
    ∃ rl outs, rlRun s (rateLimitStart s t0) evs = .ok (rl,outs) ∧
      rl.nQueued = ((∑ i, (rl.queues i).length : Nat) : Int) ∧ rl.nQueued ≤ s.burstLimit ∧
      (∀ t, t0 ≤ t → (∀ now ∈ periodicTimes evs, now ≤ t) →
        ((normalCount outs + (sentOf outs).length : Nat) : Int) ≤ (s.rateLimit * 100 + s.rateLimit * (t - t0)) / 1000) ∧
      (sentOf outs ++ droppedOf outs ++ contents rl.queues).Perm (List.range rl.nextBuffer) := by
  obtain ⟨rl,outs,run,good⟩ := runGood burst evs (goodStart rate burst t0)
  simp only [List.nil_append,Nat.zero_add] at good
  refine ⟨rl,outs,run,by rw [good.queued,contentsLength],good.bounded,?_,good.conserved⟩
  intro t late after
  have filledBy : rl.lastFill ≤ t := by
    rcases good.filled with start | callback
    · omega
    · exact after _ callback
  have grown : s.rateLimit * (rl.lastFill - t0) ≤ s.rateLimit * (t - t0) :=
    mul_le_mul_of_nonneg_left (by omega) (by omega)
  have spent := good.budget
  rw [Int.le_ediv_iff_mul_le (by norm_num)]
  linarith [good.nonneg]

/- Two packet-ins on port 1 with no token to spare after the first, and a callback 10 ms later. -/
def twoPacketIns : List RlEvent :=
  [.packetIn ofprNoMatch 1 fun _ => 0,.packetIn ofprNoMatch 1 fun _ => 0,.periodic 10]

theorem twoPacketInsConform : 1 ≤ (⟨10,2⟩ : Settings).rateLimit ∧ 1 ≤ (⟨10,2⟩ : Settings).burstLimit ∧
    ∃ rl outs, rlRun ⟨10,2⟩ (rateLimitStart ⟨10,2⟩ 0) twoPacketIns = .ok (rl,outs) ∧
      rl.nQueued = ((∑ i, (rl.queues i).length : Nat) : Int) ∧ rl.nQueued ≤ 2 ∧
      (∀ t, 0 ≤ t → (∀ now ∈ periodicTimes twoPacketIns, now ≤ t) →
        ((normalCount outs + (sentOf outs).length : Nat) : Int) ≤ (10 * 100 + 10 * (t - 0)) / 1000) ∧
      (sentOf outs ++ droppedOf outs ++ contents rl.queues).Perm (List.range rl.nextBuffer) :=
  ⟨by decide,by decide,rateLimitRunConforms ⟨10,2⟩ (by decide) (by decide) 0 twoPacketIns⟩

end Accounting

end OpenFlow.RateLimit
