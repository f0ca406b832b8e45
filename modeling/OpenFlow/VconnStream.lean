import OpenFlow.Lib.ByteOrder
import OpenFlow.Lib.StepSystem

/-! The stream vconn of lib/vconn-stream.c. -/
namespace OpenFlow.VconnStream
open StepSystem

/- sizeof(struct ofp_header) -/
def ofpHeaderLen : Nat := 8

/- What one read() call does: EAGAIN, another errno, or return at most `n + 1` of the bytes asked for; at the
end of the stream it returns 0. -/
inductive ReadStep
  | again
  | fail (errno : Nat)
  | chunk (n : Nat)

/- What stream_recv returns: 0 with a message, EPROTO, EOF, EAGAIN or the errno of read(). -/
inductive RecvResult
  | msg (bytes : List UInt8)
  | eproto
  | eof
  | again
  | fail (errno : Nat)
  deriving DecidableEq

/- The results that say something of the stream: a message or its end. -/
def RecvResult.definite : RecvResult → Bool
  | .msg _ | .eproto | .eof => true
  | .again | .fail _ => false

/- want_bytes of stream_recv, or its return before reading: the header is too short, or the message is
complete. -/
inductive Want
  | read (n : Nat)
  | tooShort
  | complete

def wantBytes (rx : List UInt8) : Want :=
  if rx.length < ofpHeaderLen then .read (ofpHeaderLen - rx.length)
  else if (BigEndian.get16 rx 2).toNat < ofpHeaderLen then .tooShort
  else if (BigEndian.get16 rx 2).toNat - rx.length = 0 then .complete
  else .read ((BigEndian.get16 rx 2).toNat - rx.length)

/- stream_recv from its label `again`: what rxbuf holds, the bytes the socket has not yet returned, and the
read() calls the call makes. -/
def recvAgain : List UInt8 → List UInt8 → List ReadStep → RecvResult × List UInt8 × List UInt8
  | rx,input,reads =>
    match wantBytes rx with
    | .tooShort => (.eproto,rx,input)
    | .complete => (.msg rx,[],input)
    | .read want =>
      match reads with
      | [] => (.again,rx,input)
      | .again :: _ => (.again,rx,input)
      | .fail e :: _ => (.fail e,rx,input)
      | .chunk n :: reads =>
        let got := input.take (min (n + 1) want)
        if got = [] then (if rx = [] then .eof else .eproto,rx,input)
        else if got.length = want then
          if ofpHeaderLen < (rx ++ got).length then (.msg (rx ++ got),[],input.drop got.length)
          else recvAgain (rx ++ got) (input.drop got.length) reads
        else (.again,rx ++ got,input.drop got.length)

structure RecvState where
  rxbuf : List UInt8
  input : List UInt8

def streamRecv (st : RecvState) (reads : List ReadStep) : RecvResult × RecvState :=
  ((recvAgain st.rxbuf st.input reads).1,⟨(recvAgain st.rxbuf st.input reads).2.1,(recvAgain st.rxbuf st.input reads).2.2⟩)

/- How a byte stream ends after its messages. -/
inductive StreamEnd
  | clean
  | tooShort
  | truncated
  deriving DecidableEq

/- The messages a byte stream is made of, as its headers announce them, and how it ends: between two messages,
at a header announcing less than a header, or inside a message. -/
def frames (bytes : List UInt8) : List (List UInt8) × StreamEnd :=
  if bytes = [] then ([],.clean)
  else if bytes.length < ofpHeaderLen then ([],.truncated)
  else if _short : (BigEndian.get16 bytes 2).toNat < ofpHeaderLen then ([],.tooShort)
  else if bytes.length < (BigEndian.get16 bytes 2).toNat then ([],.truncated)
  else
    let rest := frames (bytes.drop (BigEndian.get16 bytes 2).toNat)
    (bytes.take (BigEndian.get16 bytes 2).toNat :: rest.1,rest.2)
termination_by bytes.length
decreasing_by
  simp only [List.length_drop,ofpHeaderLen] at _short ⊢
  omega

/- What stream_recv answers at each end of the stream. -/
def endResult : StreamEnd → RecvResult
  | .clean => .eof
  | .tooShort | .truncated => .eproto

/- A well-formed message: its header announces its own length, at least a header's. -/
def WellFormed (m : List UInt8) : Prop :=
  ofpHeaderLen ≤ m.length ∧ (BigEndian.get16 m 2).toNat = m.length

section Frames

theorem framesNil : frames [] = ([],.clean) := by
  rw [frames]
  rfl

theorem framesFrame {bytes : List UInt8} (header : ofpHeaderLen ≤ (BigEndian.get16 bytes 2).toNat)
    (full : (BigEndian.get16 bytes 2).toNat ≤ bytes.length) :
    frames bytes = (bytes.take (BigEndian.get16 bytes 2).toNat :: (frames (bytes.drop (BigEndian.get16 bytes 2).toNat)).1,
      (frames (bytes.drop (BigEndian.get16 bytes 2).toNat)).2) := by
  have present : bytes ≠ [] := by
    intro empty
    simp only [empty,List.length_nil,ofpHeaderLen] at full header
    omega
  rw [frames,if_neg present,if_neg (by omega),dif_neg (by omega),if_neg (by omega)]

theorem framesTooShort {bytes : List UInt8} (header : ofpHeaderLen ≤ bytes.length)
    (short : (BigEndian.get16 bytes 2).toNat < ofpHeaderLen) : frames bytes = ([],.tooShort) := by
  have present : bytes ≠ [] := by
    intro empty
    simp only [empty,List.length_nil,ofpHeaderLen] at header
    omega
  rw [frames,if_neg present,if_neg (by omega),dif_pos short]

theorem framesTruncated {bytes : List UInt8} (present : bytes ≠ [])
    (cut : bytes.length < ofpHeaderLen ∨ bytes.length < (BigEndian.get16 bytes 2).toNat) :
    frames bytes = ([],.truncated) := by
  rw [frames,if_neg present]
  by_cases part : bytes.length < ofpHeaderLen
  · rw [if_pos part]
  · have body : bytes.length < (BigEndian.get16 bytes 2).toNat := cut.resolve_left part
    rw [if_neg part,dif_neg (by omega),if_pos body]

theorem framesAppend (tail : List UInt8) :
    ∀ msgs : List (List UInt8), (∀ m ∈ msgs, WellFormed m) →
      frames (msgs.flatten ++ tail) = (msgs ++ (frames tail).1,(frames tail).2)
  | [],_ => rfl
  | m :: msgs,wf => by
    obtain ⟨header,announced⟩ := wf m List.mem_cons_self
    have read : BigEndian.get16 ((m :: msgs).flatten ++ tail) 2 = BigEndian.get16 m 2 := by
      rw [List.flatten_cons,List.append_assoc]
      exact BigEndian.get16Within _ (by simp only [ofpHeaderLen] at header; omega)
    rw [framesFrame (by rw [read,announced]; exact header) (by rw [read,announced]; simp),read,announced,
      List.flatten_cons,List.append_assoc,List.take_left' rfl,List.drop_left' rfl,
      framesAppend tail msgs fun m' mem => wf m' (List.mem_cons_of_mem m mem)]
    rfl

theorem framesWhole {rx rest : List UInt8} (header : ofpHeaderLen ≤ rx.length)
    (announced : (BigEndian.get16 rx 2).toNat = rx.length) : frames (rx ++ rest) = (rx :: (frames rest).1,(frames rest).2) := by
  have one := framesAppend rest [rx] fun m mem => by
    rw [List.mem_singleton.mp mem]
    exact ⟨header,announced⟩
  simpa using one

end Frames

section Recv

/- rxbuf never holds more than the header in it announces, so the size_t subtraction of want_bytes never
wraps. -/
def RxFits (rx : List UInt8) : Prop :=
  ofpHeaderLen ≤ rx.length → ofpHeaderLen ≤ (BigEndian.get16 rx 2).toNat → rx.length ≤ (BigEndian.get16 rx 2).toNat

/- What one call does to the bytes not yet returned, `R` before and `R'` after, read against their framing: it
returns the first frame, or the end of the stream, or nothing and keeps every byte. -/
inductive Recv (R : List UInt8) : RecvResult → List UInt8 → Prop
  | msg {m R' : List UInt8} : frames R = (m :: (frames R').1,(frames R').2) → Recv R (.msg m) R'
  | ends : (frames R).1 = [] → Recv R (endResult (frames R).2) R
  | waits {res : RecvResult} : res.definite = false → Recv R res R

theorem Recv.ended {R : List UInt8} {e : StreamEnd} (done : frames R = ([],e)) : Recv R (endResult e) R := by
  simpa only [done] using Recv.ends (R := R) (by rw [done])

theorem fitsNil : RxFits [] := fun header _ => absurd header (by decide)

theorem wantTooShort {rx : List UInt8} (h : wantBytes rx = .tooShort) :
    ofpHeaderLen ≤ rx.length ∧ (BigEndian.get16 rx 2).toNat < ofpHeaderLen := by
  unfold wantBytes at h
  split_ifs at h with part short
  exact ⟨Nat.le_of_not_lt part,short⟩

theorem wantComplete {rx : List UInt8} (h : wantBytes rx = .complete) :
    ofpHeaderLen ≤ rx.length ∧ ofpHeaderLen ≤ (BigEndian.get16 rx 2).toNat ∧ (BigEndian.get16 rx 2).toNat ≤ rx.length := by
  unfold wantBytes at h
  split_ifs at h with part short done
  exact ⟨Nat.le_of_not_lt part,Nat.le_of_not_lt short,by omega⟩

theorem wantRead {rx : List UInt8} {want : Nat} (h : wantBytes rx = .read want) :
    0 < want ∧ ((rx.length < ofpHeaderLen ∧ want = ofpHeaderLen - rx.length) ∨
      (ofpHeaderLen ≤ rx.length ∧ ofpHeaderLen ≤ (BigEndian.get16 rx 2).toNat ∧
        want = (BigEndian.get16 rx 2).toNat - rx.length)) := by
  unfold wantBytes at h
  split_ifs at h with part short done <;> cases h
  · exact ⟨by omega,.inl ⟨part,rfl⟩⟩
  · exact ⟨by omega,.inr ⟨Nat.le_of_not_lt part,Nat.le_of_not_lt short,rfl⟩⟩

theorem headerKept {rx more : List UInt8} (header : ofpHeaderLen ≤ rx.length) :
    BigEndian.get16 (rx ++ more) 2 = BigEndian.get16 rx 2 :=
  BigEndian.get16Within more (by simp only [ofpHeaderLen] at header; omega)

theorem takeDrop (rx input : List UInt8) (k : Nat) : rx ++ input.take k ++ input.drop (input.take k).length = rx ++ input := by
  rw [List.append_assoc]
  congr 1
  by_cases within : k ≤ input.length
  · rw [List.length_take_of_le within,List.take_append_drop]
  · rw [List.take_of_length_le (by omega),List.drop_length,List.append_nil]

theorem recvAgainRecv (rx input : List UInt8) (reads : List ReadStep) (fits : RxFits rx) :
    Recv (rx ++ input) (recvAgain rx input reads).1 ((recvAgain rx input reads).2.1 ++ (recvAgain rx input reads).2.2) ∧
      RxFits (recvAgain rx input reads).2.1 := by
  fun_induction recvAgain rx input reads with
  | case1 rx input reads tooShort =>
    obtain ⟨header,short⟩ := wantTooShort tooShort
    have ends : frames (rx ++ input) = ([],.tooShort) :=
      framesTooShort (by simp only [List.length_append]; omega) (by rw [headerKept header]; exact short)
    exact ⟨Recv.ended ends,fits⟩
  | case2 rx input reads complete =>
    obtain ⟨header,announced,within⟩ := wantComplete complete
    have whole : (BigEndian.get16 rx 2).toNat = rx.length := le_antisymm within (fits header announced)
    exact ⟨Recv.msg (framesWhole header whole),fitsNil⟩
  | case3 rx input want read => exact ⟨Recv.waits rfl,fits⟩
  | case4 rx input want read reads => exact ⟨Recv.waits rfl,fits⟩
  | case5 rx input want read e reads => exact ⟨Recv.waits rfl,fits⟩
  | case6 rx input want read n reads got empty =>
    have asked : 0 < min (n + 1) want := Nat.lt_min.mpr ⟨Nat.succ_pos n,(wantRead read).1⟩
    have drained : input = [] := (List.take_eq_nil_iff.mp empty).resolve_left (by omega)
    subst drained
    refine ⟨?_,fits⟩
    by_cases fresh : rx = []
    · subst fresh
      simpa [endResult] using Recv.ended framesNil
    · have cut : rx.length < ofpHeaderLen ∨ rx.length < (BigEndian.get16 rx 2).toNat := by
        rcases (wantRead read).2 with ⟨part,-⟩ | ⟨-,-,rest⟩
        · exact .inl part
        · exact .inr (by have := (wantRead read).1; omega)
      simpa [fresh,endResult] using Recv.ended (framesTruncated fresh cut)
  | case7 rx input want read n reads got present whole longer =>
    rcases (wantRead read).2 with ⟨part,asked⟩ | ⟨header,announced,asked⟩
    · simp only [List.length_append] at longer
      omega
    have length : (BigEndian.get16 (rx ++ got) 2).toNat = (rx ++ got).length := by
      rw [headerKept header,List.length_append,whole,asked]
      have := fits header announced
      omega
    have message := @framesWhole _ (input.drop got.length) (by simp only [List.length_append]; omega) length
    rw [takeDrop] at message
    exact ⟨Recv.msg message,fitsNil⟩
  | case8 rx input want read n reads got present whole header ih =>
    have grown : RxFits (rx ++ got) := fun _ announced => by
      simp only [not_lt] at header
      omega
    have next := ih grown
    rw [takeDrop] at next
    exact next
  | case9 rx input want read n reads got present shortRead =>
    refine ⟨?_,?_⟩
    · rw [takeDrop]
      exact Recv.waits rfl
    · have short : got.length < want := lt_of_le_of_ne ((List.length_take_le _ _).trans (Nat.min_le_right _ _)) shortRead
      intro longer announced
      rcases (wantRead read).2 with ⟨part,asked⟩ | ⟨header,-,asked⟩
      · simp only [List.length_append] at longer
        omega
      · rw [headerKept header] at announced ⊢
        simp only [List.length_append]
        have := fits header announced
        omega

theorem recvAgainInput (rx input : List UInt8) (reads : List ReadStep) :
    (recvAgain rx input reads).2.2.length ≤ input.length := by
  fun_induction recvAgain rx input reads with
  | case7 rx input want read n reads got present whole longer => simp
  | case8 rx input want read n reads got present whole header ih => exact ih.trans (by simp)
  | case9 rx input want read n reads got present shortRead => simp
  | _ => exact le_refl _

theorem dropShorter {input : List UInt8} {k : Nat} (present : input.take k ≠ []) :
    (input.drop (input.take k).length).length < input.length := by
  have some : 0 < (input.take k).length := List.length_pos_iff.mpr present
  have within : (input.take k).length ≤ input.length := List.length_take_le' _ _
  rw [List.length_drop]
  omega

theorem recvAgainProgress (rx input : List UInt8) (n : Nat) (reads : List ReadStep) :
    (recvAgain rx input (.chunk n :: reads)).1.definite = true ∨
      (recvAgain rx input (.chunk n :: reads)).2.2.length < input.length := by
  rw [recvAgain]
  cases wantBytes rx with
  | tooShort => exact .inl rfl
  | complete => exact .inl rfl
  | read want =>
    dsimp only
    split_ifs with empty fresh whole longer
    · exact .inl rfl
    · exact .inl rfl
    · exact .inl rfl
    · exact .inr ((recvAgainInput _ _ reads).trans_lt (dropShorter empty))
    · exact .inr (dropShorter empty)
end Recv

/- The results of a run that say something of the stream, in order. -/
def definiteOf (t : List (List ReadStep × RecvResult)) : List RecvResult := (t.map Prod.snd).filter RecvResult.definite

/- A run of stream_recv calls against the framing `F` of the whole stream: what it returned, followed by the
frames of what it has not returned, is the frames of the stream followed by as many ends of it as it returned;
and once it returned an end, nothing is left to frame. -/
structure Tracks (F : List (List UInt8) × StreamEnd) (st : RecvState) (t : List (List ReadStep × RecvResult)) : Prop where
  fits : RxFits st.rxbuf
  ends : (frames (st.rxbuf ++ st.input)).2 = F.2
  seen : ∃ j, (j = 0 ∨ (frames (st.rxbuf ++ st.input)).1 = []) ∧
    definiteOf t ++ (frames (st.rxbuf ++ st.input)).1.map RecvResult.msg = F.1.map RecvResult.msg ++ List.replicate j (endResult F.2)

section Run
variable {F : List (List UInt8) × StreamEnd}

theorem definiteOfAppend (t : List (List ReadStep × RecvResult)) (reads : List ReadStep) (res : RecvResult) :
    definiteOf (t ++ [(reads,res)]) = definiteOf t ++ if res.definite then [res] else [] := by
  simp only [definiteOf,List.map_append,List.filter_append,List.map_cons,List.map_nil,List.filter_cons,
    List.filter_nil]

theorem definiteLength (t : List (List ReadStep × RecvResult)) (reads : List ReadStep) (res : RecvResult) :
    (definiteOf (t ++ [(reads,res)])).length = (definiteOf t).length + if res.definite then 1 else 0 := by
  rw [definiteOfAppend,List.length_append]
  split <;> rfl

theorem endDefinite (e : StreamEnd) : (endResult e).definite = true := by
  cases e <;> rfl

theorem recvKeeps {R R' : List UInt8} {res : RecvResult} (step : Recv R res R') {D : List RecvResult} {j : Nat}
    (ends : (frames R).2 = F.2) (after : j = 0 ∨ (frames R).1 = [])
    (seen : D ++ (frames R).1.map RecvResult.msg = F.1.map RecvResult.msg ++ List.replicate j (endResult F.2)) :
    (frames R').2 = F.2 ∧ ∃ j', (j' = 0 ∨ (frames R').1 = []) ∧
      (D ++ if res.definite then [res] else []) ++ (frames R').1.map RecvResult.msg =
        F.1.map RecvResult.msg ++ List.replicate j' (endResult F.2) := by
  cases step with
  | msg framed =>
    rw [framed] at ends after seen
    refine ⟨ends,j,?_,?_⟩
    · rcases after with none | empty
      · exact .inl none
      · cases empty
    · simpa [RecvResult.definite] using seen
  | ends empty =>
    rw [if_pos (endDefinite _)]
    refine ⟨ends,j + 1,.inr empty,?_⟩
    rw [empty,List.map_nil,List.append_nil] at seen
    rw [empty,List.map_nil,List.append_nil,seen,ends,List.replicate_succ',List.append_assoc]
  | waits quiet =>
    rw [quiet]
    exact ⟨ends,j,after,by simpa using seen⟩

theorem tracksStep {st : RecvState} {t : List (List ReadStep × RecvResult)} (tracks : Tracks F st t) (reads : List ReadStep) :
    Tracks F (streamRecv st reads).2 (t ++ [(reads,(streamRecv st reads).1)]) := by
  obtain ⟨fits,ends,j,after,seen⟩ := tracks
  obtain ⟨step,fits'⟩ := recvAgainRecv st.rxbuf st.input reads fits
  obtain ⟨ends',j',after',seen'⟩ := recvKeeps step ends after seen
  refine ⟨fits',ends',j',after',?_⟩
  rw [definiteOfAppend]
  exact seen'

theorem tracksRun (stream : List UInt8) (calls : List (List ReadStep)) :
    Tracks (frames stream) (after streamRecv ⟨[],stream⟩ calls) (answers streamRecv ⟨[],stream⟩ calls) :=
  answersInvariant streamRecv (I := Tracks (frames stream)) (fun _ _ reads tracks => tracksStep tracks reads)
    ⟨fitsNil,rfl,0,.inl rfl,by simp [definiteOf]⟩ calls

theorem recvPrefix (stream : List UInt8) (calls : List (List ReadStep)) :
    definiteOf (answers streamRecv ⟨[],stream⟩ calls) <+:
      (frames stream).1.map RecvResult.msg ++
        List.replicate (definiteOf (answers streamRecv ⟨[],stream⟩ calls)).length (endResult (frames stream).2) := by
  obtain ⟨-,-,j,after,seen⟩ := tracksRun stream calls
  rcases after with none | empty
  · -- no end returned yet: what was returned is a prefix of the frames
    rw [none,List.replicate_zero,List.append_nil] at seen
    exact List.IsPrefix.trans ⟨_,seen⟩ (List.prefix_append _ _)
  · -- an end returned: all frames and `j` ends were returned
    rw [empty,List.map_nil,List.append_nil] at seen
    rw [seen,List.prefix_append_right_inj]
    refine ⟨List.replicate ((frames stream).1.map RecvResult.msg).length (endResult (frames stream).2),?_⟩
    rw [← List.replicate_add,List.length_append,List.length_replicate,Nat.add_comm]

/- A call whose first read returns data. -/
def Eager (reads : List ReadStep) : Prop := ∃ n rest, reads = .chunk n :: rest

theorem recvCount (stream : List UInt8) (calls : List (List ReadStep)) (eager : ∀ c ∈ calls, Eager c) :
    calls.length ≤ (definiteOf (answers streamRecv ⟨[],stream⟩ calls)).length +
      (stream.length - (after streamRecv ⟨[],stream⟩ calls).input.length) := by
  have count := answersInvariantOf streamRecv
    (I := fun st t => t.length ≤ (definiteOf t).length + (stream.length - st.input.length) ∧ st.input.length ≤ stream.length)
    (fun st t reads first ⟨before,within⟩ => by
      obtain ⟨n,rest,rfl⟩ := first
      have shrinks : (streamRecv st (.chunk n :: rest)).2.input.length ≤ st.input.length :=
        recvAgainInput st.rxbuf st.input (.chunk n :: rest)
      have progress : (streamRecv st (.chunk n :: rest)).1.definite = true ∨
          (streamRecv st (.chunk n :: rest)).2.input.length < st.input.length :=
        recvAgainProgress st.rxbuf st.input n rest
      rw [definiteLength,List.length_append,List.length_singleton]
      rcases progress with returned | took
      · rw [if_pos returned]
        omega
      · split <;> omega)
    (s := ⟨[],stream⟩) ⟨Nat.zero_le _,le_refl _⟩ calls eager
  rw [answersLength] at count
  exact count.1

theorem recvReachesEnd (stream : List UInt8) (calls : List (List ReadStep)) (eager : ∀ c ∈ calls, Eager c)
    (enough : stream.length + (frames stream).1.length < calls.length) :
    (frames stream).1.map RecvResult.msg ++ [endResult (frames stream).2] <+:
      definiteOf (answers streamRecv ⟨[],stream⟩ calls) := by
  have count := recvCount stream calls eager
  have many : (frames stream).1.length < (definiteOf (answers streamRecv ⟨[],stream⟩ calls)).length := by omega
  obtain ⟨-,-,j,after,seen⟩ := tracksRun stream calls
  rcases after with none | empty
  · -- with no end returned, no more than the frames were returned
    rw [none,List.replicate_zero,List.append_nil] at seen
    have lengths := congrArg List.length seen
    simp only [List.length_append,List.length_map] at lengths
    omega
  · rw [empty,List.map_nil,List.append_nil] at seen
    have lengths := congrArg List.length seen
    simp only [List.length_append,List.length_map,List.length_replicate] at lengths
    obtain ⟨k,rfl⟩ : ∃ k, j = k + 1 := ⟨j - 1,by omega⟩
    rw [seen,List.replicate_succ]
    exact ⟨List.replicate k (endResult (frames stream).2),by simp⟩

end Run

/- What one write() call does: EAGAIN, another errno, or take at most `n` of the bytes. -/
inductive WriteStep
  | again
  | fail (errno : Nat)
  | wrote (n : Nat)

def WriteStep.failed : WriteStep → Bool
  | .fail _ => true
  | .again | .wrote _ => false

/- txbuf, and the bytes the socket has taken so far. -/
structure TxState where
  txbuf : Option (List UInt8)
  written : List UInt8

/- What stream_send returns; stream_do_tx returns nothing. -/
inductive SendResult
  | ok
  | again
  | fail (errno : Nat)
  | done

def streamSend (st : TxState) (msg : List UInt8) (w : WriteStep) : SendResult × TxState :=
  if st.txbuf.isSome then (.again,st)
  else
    match w with
    | .wrote n =>
      if min n msg.length = msg.length then (.ok,{ st with written := st.written ++ msg })
      else (.ok,⟨some (msg.drop (min n msg.length)),st.written ++ msg.take (min n msg.length)⟩)
    | .again => (.ok,{ st with txbuf := some msg })
    | .fail e => (.fail e,st)

/- stream_do_tx, the POLLOUT callback, registered only while txbuf holds bytes. -/
def streamDoTx (st : TxState) (w : WriteStep) : TxState :=
  match st.txbuf,w with
  | none,_ => st
  | some _,.fail _ => { st with txbuf := none }
  | some _,.again => st
  | some buf,.wrote n =>
    if 0 < min n buf.length then
      if buf.length - min n buf.length = 0 then ⟨none,st.written ++ buf.take (min n buf.length)⟩
      else ⟨some (buf.drop (min n buf.length)),st.written ++ buf.take (min n buf.length)⟩
    else st

/- A call on the send side, with what its write() does. -/
inductive TxCall
  | send (msg : List UInt8) (w : WriteStep)
  | doTx (w : WriteStep)

def TxCall.write : TxCall → WriteStep
  | .send _ w => w
  | .doTx w => w

def txCall (st : TxState) : TxCall → SendResult × TxState
  | .send msg w => streamSend st msg w
  | .doTx w => (.done,streamDoTx st w)

/- The message a send call handed over, when stream_send accepted it. -/
def accepted : TxCall × SendResult → Option (List UInt8)
  | (.send msg _,.ok) => some msg
  | _ => none

section Send

/- What the socket took, then what txbuf holds, is what was accepted, in order. -/
def Drains (st : TxState) (t : List (TxCall × SendResult)) : Prop :=
  st.written ++ st.txbuf.getD [] = (t.filterMap accepted).flatten

theorem acceptedAppend (t : List (TxCall × SendResult)) (e : TxCall × SendResult) :
    ((t ++ [e]).filterMap accepted).flatten = (t.filterMap accepted).flatten ++ ((accepted e).toList).flatten := by
  cases h : accepted e <;> simp [List.filterMap_append,h]

theorem sendDrains {st : TxState} {t : List (TxCall × SendResult)} (drains : Drains st t) (msg : List UInt8)
    {w : WriteStep} (kept : w.failed = false) :
    Drains (streamSend st msg w).2 (t ++ [(.send msg w,(streamSend st msg w).1)]) := by
  unfold Drains at *
  rw [acceptedAppend]
  unfold streamSend
  by_cases busy : st.txbuf.isSome
  · -- refused with EAGAIN: nothing accepted, nothing written
    simp [busy,accepted,drains]
  · have idle : st.txbuf = none := Option.not_isSome_iff_eq_none.mp busy
    rw [idle,Option.getD_none,List.append_nil] at drains
    simp only [busy,if_false,Bool.false_eq_true]
    cases w with
    | wrote n =>
      by_cases whole : min n msg.length = msg.length
      · simp [whole,accepted,idle,drains]
      · simp [whole,accepted,drains]
    | again => simp [accepted,drains]
    | fail e => cases kept

theorem doTxDrains {st : TxState} {t : List (TxCall × SendResult)} (drains : Drains st t) {w : WriteStep}
    (kept : w.failed = false) : Drains (streamDoTx st w) (t ++ [(.doTx w,.done)]) := by
  unfold Drains at *
  rw [acceptedAppend]
  simp only [accepted,Option.toList_none,List.flatten_nil,List.append_nil]
  unfold streamDoTx
  cases hold : st.txbuf with
  | none => simpa [hold] using drains
  | some buf =>
    rw [hold,Option.getD_some] at drains
    cases w with
    | fail e => cases kept
    | again => simpa [hold] using drains
    | wrote n =>
      dsimp only
      split_ifs with moved emptied
      · -- all of txbuf went out
        have all : buf.take (min n buf.length) = buf := List.take_of_length_le (by omega)
        simpa [all] using drains
      · simpa using drains
      · simpa [hold] using drains

theorem sendRun (calls : List TxCall) (kept : ∀ c ∈ calls, c.write.failed = false) :
    (after txCall ⟨none,[]⟩ calls).written ++ (after txCall ⟨none,[]⟩ calls).txbuf.getD [] =
      ((answers txCall ⟨none,[]⟩ calls).filterMap accepted).flatten := by
  refine answersInvariantOf txCall (I := Drains) ?_ (s := ⟨none,[]⟩) rfl calls kept
  intro st t call ok drains
  cases call with
  | send msg w => exact sendDrains drains msg ok
  | doTx w => exact doTxDrains drains ok

end Send

/- A stream of well-formed messages followed by any bytes `tail`. -/
theorem streamRecvSend (msgs : List (List UInt8)) (wf : ∀ m ∈ msgs, WellFormed m) (tail : List UInt8)
    (calls : List (List ReadStep)) (sends : List TxCall) :
    definiteOf (answers streamRecv ⟨[],msgs.flatten ++ tail⟩ calls) <+:
        (msgs ++ (frames tail).1).map RecvResult.msg ++
          List.replicate (definiteOf (answers streamRecv ⟨[],msgs.flatten ++ tail⟩ calls)).length
            (endResult (frames tail).2) ∧
      ((∀ c ∈ calls, Eager c) → (msgs.flatten ++ tail).length + (msgs ++ (frames tail).1).length < calls.length →
        (msgs ++ (frames tail).1).map RecvResult.msg ++ [endResult (frames tail).2] <+:
          definiteOf (answers streamRecv ⟨[],msgs.flatten ++ tail⟩ calls)) ∧
      ((frames []).1 = [] ∧ endResult (frames []).2 = .eof) ∧
      (∀ bad : List UInt8, ofpHeaderLen ≤ bad.length → (BigEndian.get16 bad 2).toNat < ofpHeaderLen →
        (frames bad).1 = [] ∧ endResult (frames bad).2 = .eproto) ∧
      (∀ cut : List UInt8, cut ≠ [] → (cut.length < ofpHeaderLen ∨ cut.length < (BigEndian.get16 cut 2).toNat) →
        (frames cut).1 = [] ∧ endResult (frames cut).2 = .eproto) ∧
      ((∀ c ∈ sends, c.write.failed = false) →
        (after txCall ⟨none,[]⟩ sends).written ++ (after txCall ⟨none,[]⟩ sends).txbuf.getD [] =
          ((answers txCall ⟨none,[]⟩ sends).filterMap accepted).flatten) := by
  have framed := framesAppend tail msgs wf
  refine ⟨?_,fun eager enough => ?_,by rw [framesNil]; exact ⟨rfl,rfl⟩,fun bad header short => ?_,
    fun cut present stops => ?_,sendRun sends⟩
  · simpa only [framed] using recvPrefix (msgs.flatten ++ tail) calls
  · have more : (msgs.flatten ++ tail).length + (frames (msgs.flatten ++ tail)).1.length < calls.length := by
      rw [framed]
      exact enough
    simpa only [framed] using recvReachesEnd (msgs.flatten ++ tail) calls eager more
  · rw [framesTooShort header short]
    exact ⟨rfl,rfl⟩
  · rw [framesTruncated present stops]
    exact ⟨rfl,rfl⟩

/- OFPT_HELLO with xid 1. -/
def helloMsg : List UInt8 := [1,0,0,8,0,0,0,1]

theorem helloExchanged :
    (∀ m ∈ [helloMsg], WellFormed m) ∧ (∀ c ∈ List.replicate 10 [ReadStep.chunk 99], Eager c) ∧
      ([helloMsg].flatten ++ []).length + ([helloMsg] ++ (frames []).1).length <
        (List.replicate 10 [ReadStep.chunk 99]).length ∧
      (∀ c ∈ [TxCall.send helloMsg (.wrote 3),.doTx (.wrote 99)], c.write.failed = false) ∧
      ([helloMsg] ++ (frames []).1).map RecvResult.msg ++ [endResult (frames []).2] <+:
        definiteOf (answers streamRecv ⟨[],[helloMsg].flatten ++ []⟩ (List.replicate 10 [ReadStep.chunk 99])) ∧
      (after txCall ⟨none,[]⟩ [.send helloMsg (.wrote 3),.doTx (.wrote 99)]).written ++
          (after txCall ⟨none,[]⟩ [.send helloMsg (.wrote 3),.doTx (.wrote 99)]).txbuf.getD [] =
        ((answers txCall ⟨none,[]⟩ [.send helloMsg (.wrote 3),.doTx (.wrote 99)]).filterMap accepted).flatten := by
  have wf : ∀ m ∈ [helloMsg], WellFormed m := by
    intro m mem
    rw [List.mem_singleton.mp mem]
    exact ⟨by decide,by decide⟩
  have eager : ∀ c ∈ List.replicate 10 [ReadStep.chunk 99], Eager c := by
    intro c mem
    rw [List.eq_of_mem_replicate mem]
    exact ⟨99,[],rfl⟩
  have enough : ([helloMsg].flatten ++ []).length + ([helloMsg] ++ (frames []).1).length <
      (List.replicate 10 [ReadStep.chunk 99]).length := by
    rw [framesNil]
    decide
  have kept : ∀ c ∈ [TxCall.send helloMsg (.wrote 3),.doTx (.wrote 99)], c.write.failed = false := by
    decide
  have exchanged := streamRecvSend [helloMsg] wf [] (List.replicate 10 [ReadStep.chunk 99])
    [.send helloMsg (.wrote 3),.doTx (.wrote 99)]
  exact ⟨wf,eager,enough,kept,exchanged.2.1 eager enough,exchanged.2.2.2.2.2 kept⟩

end OpenFlow.VconnStream
