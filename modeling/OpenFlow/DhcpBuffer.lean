import Mathlib
import OpenFlow.Dhcp
import OpenFlow.Lib.Memory
import OpenFlow.Execute

/-! The option buffer of struct dhcp_msg (lib/dhcp.c). -/
namespace OpenFlow.DhcpBuffer
open Dhcp

/- Codes 0 to DHCP_N_OPTIONS - 1. -/
abbrev Code := Fin dhcpNOptions

/- struct dhcp_option: where its bytes start and how many there are. -/
structure DhcpOption where
  data : Option Nat
  n : Nat
  deriving DecidableEq, Repr

/- The addresses of an option's bytes; a null pointer has none. -/
def DhcpOption.region (opt : DhcpOption) : Finset Nat := Memory.region (opt.data.getD 0) opt.n

/- The fields of struct dhcp_msg that the option functions use. -/
structure DhcpBuf where
  options : Code → DhcpOption
  data : Option (Nat → UInt8)
  dataUsed : Nat
  dataAllocated : Nat

/- dhcp_msg_init's memset. -/
def dhcpMsgInit : DhcpBuf := ⟨fun _ => ⟨none,0⟩,none,0,0⟩

/- The contents of a buffer xmalloc returns. -/
def fresh : Nat → UInt8 := fun _ => 0

/- The bytes an option points to; none for a null pointer. -/
def optionBytes (msg : DhcpBuf) (opt : DhcpOption) : Option (List UInt8) :=
  opt.data.bind fun off => msg.data.map fun mem => Memory.read mem off opt.n

/- dhcp_msg_get_string, before xmemdup0 adds the NUL. -/
def dhcpMsgGetString (msg : DhcpBuf) (code : Code) : Option (List UInt8) := optionBytes msg (msg.options code)

/- dhcp_msg_get: the `size` bytes at `offset`, or null when the option is shorter. -/
def dhcpMsgGet (msg : DhcpBuf) (code : Code) (offset size : Nat) : Option (List UInt8) :=
  let opt := msg.options code
  if offset + size ≤ opt.n then (optionBytes msg opt).map fun bytes => (bytes.drop offset).take size else none

/- append_data: the bytes copied to the end of the buffer, and the pointer to where they went. -/
def appendData (msg : DhcpBuf) (bytes : List UInt8) : DhcpBuf × Option Nat :=
  ({ msg with
      data := msg.data.map fun mem => Memory.write mem msg.dataUsed bytes
      dataUsed := msg.dataUsed + bytes.length },
    msg.data.map fun _ => msg.dataUsed)

/- opt->data = append_data(msg, bytes, opt->n): the option points at its bytes copied to the end of the
buffer. -/
def placeOption (msg : DhcpBuf) (code : Code) (bytes : List UInt8) : DhcpBuf :=
  let appended := appendData msg bytes
  { appended.1 with options := Function.update msg.options code { msg.options code with data := appended.2 } }

/- copy_data's loop over the codes still to do; the options not yet copied point into `src`, the buffer being
left. -/
def copyDataLoop (src : Nat → UInt8) : List Code → DhcpBuf → Except Halt DhcpBuf
  | [], msg => .ok msg
  | code :: codes, msg =>
    let opt := msg.options code
    match opt.data with
    | some off =>
      if msg.dataUsed + opt.n ≤ msg.dataAllocated then
        copyDataLoop src codes (placeOption msg code (Memory.read src off opt.n))
      else .error .assertFailed
    | none => copyDataLoop src codes msg

def copyData (msg : DhcpBuf) (src : Nat → UInt8) : Except Halt DhcpBuf :=
  copyDataLoop src (List.finRange dhcpNOptions) { msg with dataUsed := 0 }

def preallocData (msg : DhcpBuf) (n : Nat) : Except Halt DhcpBuf :=
  let needed := msg.dataUsed + n
  if needed > msg.dataAllocated then
    let grown := { msg with dataAllocated := max (needed * 2) 64,data := some fresh }
    match msg.data with
    | some old => copyData grown old
    | none => .ok grown
  else .ok msg

/- append_data(msg, data, n) and then opt->n += n, for the option that ends the buffer. -/
def growOption (msg : DhcpBuf) (code : Code) (n : Nat) (data : List UInt8) : DhcpBuf :=
  let grown := (appendData msg data).1
  { grown with options := Function.update grown.options code { grown.options code with n := n + data.length } }

/- What dhcp_msg_put does once prealloc_data has made room: an option with bytes is moved to the end unless
they already end the buffer (both pointers compared are into msg->data), and the data is appended after them;
an option without bytes points at the data appended. -/
def appendOption (msg : DhcpBuf) (code : Code) (data : List UInt8) : DhcpBuf :=
  let opt := msg.options code
  if opt.n ≠ 0 then
    let last := if some (msg.dataUsed - opt.n) ≠ opt.data then placeOption msg code ((optionBytes msg opt).getD [])
      else msg
    growOption last code opt.n data
  else
    let placed := placeOption msg code data
    { placed with options := Function.update placed.options code { placed.options code with n := opt.n + data.length } }

/- dhcp_msg_put -/
def dhcpMsgPut (msg : DhcpBuf) (code : Code) (data : List UInt8) : Except Halt DhcpBuf :=
  if code.val = dhcpCodePad ∨ code.val = dhcpCodeEnd then .ok msg
  else do
    let msg ← preallocData msg (data.length + (msg.options code).n)
    pure (appendOption msg code data)

/- dhcp_msg_copy: `*dst = *src`, then the options compacted into a buffer of src->data_used bytes. -/
def dhcpMsgCopy (src : DhcpBuf) : Except Halt DhcpBuf :=
  copyData { src with dataAllocated := src.dataUsed,dataUsed := 0,data := some fresh } (src.data.getD fresh)

/- A sequence of dhcp_msg_put calls. -/
def dhcpMsgPuts (msg : DhcpBuf) : List (Code × List UInt8) → Except Halt DhcpBuf
  | [] => .ok msg
  | put :: puts => do
    let msg ← dhcpMsgPut msg put.1 put.2
    dhcpMsgPuts msg puts

section Layout

/- The options in `P` lie in the part of the buffer in use, each in bytes of its own. -/
structure LaidOn (P : Code → Prop) (msg : DhcpBuf) : Prop where
  inside : ∀ c, P c → (msg.options c).region ⊆ Finset.range msg.dataUsed
  apart : ∀ c d, P c → P d → c ≠ d → Disjoint (msg.options c).region (msg.options d).region

theorem LaidOn.mono {P Q : Code → Prop} {msg : DhcpBuf} (laid : LaidOn P msg) (sub : ∀ c, Q c → P c) :
    LaidOn Q msg :=
  ⟨fun c inQ => laid.inside c (sub c inQ),fun c d inC inD => laid.apart c d (sub c inC) (sub d inD)⟩

/- What every message the option functions hand back keeps: the bytes in use fit the buffer, the options lie
apart inside them, a null pointer holds no bytes, and without a buffer nothing is in use. -/
structure Laid (msg : DhcpBuf) : Prop where
  fits : msg.dataUsed ≤ msg.dataAllocated
  laid : LaidOn (fun _ => True) msg
  counted : ∀ c, (msg.options c).data = none → (msg.options c).n = 0
  null : msg.data = none → msg.dataUsed = 0 ∧ msg.dataAllocated = 0 ∧ ∀ c, (msg.options c).data = none

theorem laidInit : Laid dhcpMsgInit where
  fits := le_refl 0
  laid := ⟨fun _ _ => by simp [dhcpMsgInit,DhcpOption.region],fun _ _ _ _ _ => by simp [dhcpMsgInit,DhcpOption.region]⟩
  counted := fun _ _ => rfl
  null := fun _ => ⟨rfl,rfl,fun _ => rfl⟩

theorem Laid.sumLe {msg : DhcpBuf} (laid : Laid msg) : ∑ c, (msg.options c).n ≤ msg.dataUsed :=
  Memory.sumLengthsLe (fun c => ((msg.options c).data.getD 0)) (fun c => (msg.options c).n) msg.dataUsed
    (fun c => laid.laid.inside c trivial) (fun c d distinct => laid.laid.apart c d trivial trivial distinct)

theorem getStringSome {msg : DhcpBuf} {mem : Nat → UInt8} {c : Code} {p : Nat} (buffer : msg.data = some mem)
    (pointer : (msg.options c).data = some p) :
    dhcpMsgGetString msg c = some (Memory.read mem p (msg.options c).n) := by
  simp [dhcpMsgGetString,optionBytes,buffer,pointer]

theorem getStringNull {msg : DhcpBuf} {c : Code} (pointer : (msg.options c).data = none) :
    dhcpMsgGetString msg c = none := by
  simp [dhcpMsgGetString,optionBytes,pointer]

theorem Laid.stringLength {msg : DhcpBuf} (laid : Laid msg) (c : Code) :
    ((dhcpMsgGetString msg c).getD []).length = (msg.options c).n := by
  cases pointer : (msg.options c).data with
  | none => rw [getStringNull pointer,laid.counted c pointer]; rfl
  | some p =>
    cases buffer : msg.data with
    | none => simp [(laid.null buffer).2.2 c] at pointer
    | some mem => simp [getStringSome buffer pointer]

end Layout

section Append
variable (msg : DhcpBuf) (bytes : List UInt8)

@[simp] theorem appendDataOptions : (appendData msg bytes).1.options = msg.options := rfl

@[simp] theorem appendDataUsed : (appendData msg bytes).1.dataUsed = msg.dataUsed + bytes.length := rfl

@[simp] theorem appendDataAllocated : (appendData msg bytes).1.dataAllocated = msg.dataAllocated := rfl

@[simp] theorem appendDataIsSome : (appendData msg bytes).1.data.isSome = msg.data.isSome := by
  simp [appendData]

theorem appendKeeps {opt : DhcpOption} (within : opt.region ⊆ Finset.range msg.dataUsed) :
    optionBytes (appendData msg bytes).1 opt = optionBytes msg opt := by
  rcases opt with ⟨_ | off,n⟩
  · rfl
  · simp only [DhcpOption.region,Option.getD_some] at within
    rcases msg with ⟨options,_ | mem,used,allocated⟩
    · rfl
    · simp only [optionBytes,appendData,Option.bind_some,Option.map_some]
      rw [Memory.readWriteOutside mem (Memory.regionsApartAt within)]

@[simp] theorem placeOptionUsed (code : Code) : (placeOption msg code bytes).dataUsed = msg.dataUsed + bytes.length := rfl

@[simp] theorem placeOptionAllocated (code : Code) : (placeOption msg code bytes).dataAllocated = msg.dataAllocated := rfl

@[simp] theorem placeOptionIsSome (code : Code) : (placeOption msg code bytes).data.isSome = msg.data.isSome := by
  simp [placeOption,appendData]

theorem placeOptionOther {code c : Code} (other : c ≠ code) : (placeOption msg code bytes).options c = msg.options c :=
  Function.update_of_ne other _ _

theorem placeOptionSelf (code : Code) :
    (placeOption msg code bytes).options code = ⟨msg.data.map fun _ => msg.dataUsed,(msg.options code).n⟩ := by
  simp [placeOption,appendData]

theorem placeReads {code : Code} (buffer : msg.data.isSome) (sized : bytes.length = (msg.options code).n) :
    dhcpMsgGetString (placeOption msg code bytes) code = some bytes := by
  rcases msg with ⟨options,_ | mem,used,allocated⟩
  · cases buffer
  · simp only at sized
    simp [dhcpMsgGetString,optionBytes,placeOption,appendData,← sized,Memory.readWriteSelf]

theorem placeKeeps {code c : Code} (other : c ≠ code) (within : (msg.options c).region ⊆ Finset.range msg.dataUsed) :
    dhcpMsgGetString (placeOption msg code bytes) c = dhcpMsgGetString msg c := by
  rw [dhcpMsgGetString,placeOptionOther msg bytes other]
  exact appendKeeps msg bytes within

theorem placeLaid {P : Code → Prop} {code : Code} (laid : LaidOn P msg) (buffer : msg.data.isSome)
    (sized : bytes.length = (msg.options code).n) :
    LaidOn (fun c => P c ∨ c = code) (placeOption msg code bytes) := by
  have placed : ((placeOption msg code bytes).options code).region = Memory.region msg.dataUsed bytes.length := by
    obtain ⟨mem,stored⟩ := Option.isSome_iff_exists.mp buffer
    rw [placeOptionSelf,sized,stored]
    rfl
  have kept : ∀ c, P c → c ≠ code → ((placeOption msg code bytes).options c).region ⊆ Finset.range msg.dataUsed :=
    fun c inP other => placeOptionOther msg bytes other ▸ laid.inside c inP
  refine ⟨fun c inside => ?_,fun c d inC inD distinct => ?_⟩
  · simp only [placeOptionUsed]
    by_cases here : c = code
    · subst here
      rw [placed]
      exact Memory.regionWithin.mpr (.inr le_rfl)
    · exact (kept c (inside.resolve_right here) here).trans (Finset.range_subset_range.mpr (Nat.le_add_right _ _))
  · by_cases first : c = code
    · subst first
      rw [placed]
      exact (Memory.regionsApartAt (kept d (inD.resolve_right (Ne.symm distinct)) (Ne.symm distinct))).symm
    · by_cases second : d = code
      · subst second
        rw [placed]
        exact Memory.regionsApartAt (kept c (inC.resolve_right first) first)
      · rw [placeOptionOther msg bytes first,placeOptionOther msg bytes second]
        exact laid.apart c d (inC.resolve_right first) (inD.resolve_right second) distinct

end Append

section Copy
variable (src : Nat → UInt8) (start : DhcpBuf)

/- The bytes `start`'s options point to in the buffer being left. -/
def srcBytes (c : Code) : Option (List UInt8) :=
  (start.options c).data.map fun off => Memory.read src off (start.options c).n

/- copy_data part way: the codes done have their bytes copied, apart, into the part of the new buffer in use,
which holds just them; the others are as copy_data found them. -/
structure Copying (done : List Code) (msg : DhcpBuf) : Prop where
  buffer : msg.data.isSome
  allocated : msg.dataAllocated = start.dataAllocated
  untouched : ∀ c, c ∉ done → msg.options c = start.options c
  sizes : ∀ c, (msg.options c).n = (start.options c).n
  pointed : ∀ c, (msg.options c).data.isSome = (start.options c).data.isSome
  used : msg.dataUsed = (done.map fun c => (start.options c).n).sum
  laid : LaidOn (fun c => c ∈ done) msg
  copied : ∀ c ∈ done, dhcpMsgGetString msg c = srcBytes src start c

variable {src start}

theorem copyDataLoopCons (c : Code) (rest : List Code) (msg : DhcpBuf) :
    copyDataLoop src (c :: rest) msg = (copyDataLoop src [c] msg).bind (copyDataLoop src rest) := by
  rcases pointer : (msg.options c).data with _ | off
  · simp [copyDataLoop,pointer,Except.bind]
  · by_cases fits : msg.dataUsed + (msg.options c).n ≤ msg.dataAllocated <;>
      simp [copyDataLoop,pointer,fits,Except.bind]

theorem Copying.step {done : List Code} {msg : DhcpBuf} {c : Code} (copying : Copying src start done msg)
    (fresh : c ∉ done) (counted : ∀ c, (start.options c).data = none → (start.options c).n = 0)
    (room : msg.dataUsed + (start.options c).n ≤ start.dataAllocated) :
    ∃ msg', copyDataLoop src [c] msg = .ok msg' ∧ Copying src start (done ++ [c]) msg' := by
  have same := copying.untouched c fresh
  cases pointer : (start.options c).data with
  | none =>
    have empty : (msg.options c).region = ∅ := by
      simp [DhcpOption.region,same,counted c pointer]
    refine ⟨msg,by simp [copyDataLoop,same,pointer],?_⟩
    exact
      { buffer := copying.buffer
        allocated := copying.allocated
        untouched := fun c' absent => copying.untouched c' (fun mem => absent (List.mem_append_left _ mem))
        sizes := copying.sizes
        pointed := copying.pointed
        used := by simp [copying.used,counted c pointer]
        laid := ⟨fun c' inside => by
            rcases List.mem_append.mp inside with old | new
            · exact copying.laid.inside c' old
            · rw [List.mem_singleton.mp new,empty]
              exact Finset.empty_subset _,
          fun c' d inC inD distinct => by
            rcases List.mem_append.mp inC with oldC | newC
            · rcases List.mem_append.mp inD with oldD | newD
              · exact copying.laid.apart c' d oldC oldD distinct
              · rw [List.mem_singleton.mp newD,empty]
                exact Finset.disjoint_empty_right _
            · rw [List.mem_singleton.mp newC,empty]
              exact Finset.disjoint_empty_left _⟩
        copied := fun c' inside => by
          rcases List.mem_append.mp inside with old | new
          · exact copying.copied c' old
          · rw [List.mem_singleton.mp new,getStringNull (same ▸ pointer),srcBytes,pointer]
            rfl }
  | some off =>
    have fits : msg.dataUsed + (start.options c).n ≤ msg.dataAllocated := by
      rw [copying.allocated]
      exact room
    have sized : (Memory.read src off (start.options c).n).length = (msg.options c).n := by
      rw [Memory.readLength,copying.sizes]
    refine ⟨placeOption msg c (Memory.read src off (start.options c).n),?_,?_⟩
    · simp [copyDataLoop,same,pointer,fits]
    · have placed := placeLaid msg _ copying.laid copying.buffer sized
      exact
        { buffer := by simpa using copying.buffer
          allocated := copying.allocated
          untouched := fun c' absent => by
            have other : c' ≠ c := fun here => absent (List.mem_append_right _ (List.mem_singleton.mpr here))
            rw [placeOptionOther msg _ other]
            exact copying.untouched c' (fun mem => absent (List.mem_append_left _ mem))
          sizes := fun c' => by
            by_cases here : c' = c
            · subst here
              rw [placeOptionSelf]
              exact copying.sizes c'
            · rw [placeOptionOther msg _ here]
              exact copying.sizes c'
          pointed := fun c' => by
            by_cases here : c' = c
            · subst here
              rw [placeOptionSelf,pointer]
              simpa using copying.buffer
            · rw [placeOptionOther msg _ here]
              exact copying.pointed c'
          used := by simp [copying.used]
          laid := placed.mono fun c' inside => by simpa using inside
          copied := fun c' inside => by
            rcases List.mem_append.mp inside with old | new
            · have other : c' ≠ c := fun here => fresh (here ▸ old)
              rw [placeKeeps msg _ other (copying.laid.inside c' old)]
              exact copying.copied c' old
            · rw [List.mem_singleton.mp new,placeReads msg _ copying.buffer sized,srcBytes,pointer]
              rfl }

theorem copyLoopSpec (counted : ∀ c, (start.options c).data = none → (start.options c).n = 0) :
    ∀ (todo done : List Code) (msg : DhcpBuf), (done ++ todo).Nodup → Copying src start done msg →
      ((done ++ todo).map fun c => (start.options c).n).sum ≤ start.dataAllocated →
        ∃ msg', copyDataLoop src todo msg = .ok msg' ∧ Copying src start (done ++ todo) msg'
  | [], done, msg, _, copying, _ => ⟨msg,rfl,by simpa using copying⟩
  | c :: rest, done, msg, distinct, copying, room => by
    have fresh : c ∉ done := fun mem => (List.nodup_middle.mp distinct |> List.nodup_cons.mp).1 (List.mem_append_left _ mem)
    have fits : msg.dataUsed + (start.options c).n ≤ start.dataAllocated := by
      rw [copying.used]
      simp only [List.map_append,List.map_cons,List.sum_append,List.sum_cons] at room
      omega
    obtain ⟨msg1,once,copying1⟩ := copying.step fresh counted fits
    have shifted : done ++ [c] ++ rest = done ++ c :: rest := by simp
    obtain ⟨msg2,rest2,copying2⟩ := copyLoopSpec counted rest (done ++ [c]) msg1 (shifted ▸ distinct) copying1
      (shifted ▸ room)
    refine ⟨msg2,?_,shifted ▸ copying2⟩
    rw [copyDataLoopCons,once]
    exact rest2

theorem copyDataSpec (counted : ∀ c, (start.options c).data = none → (start.options c).n = 0)
    (buffer : start.data.isSome) (room : ∑ c, (start.options c).n ≤ start.dataAllocated) :
    ∃ msg', copyData start src = .ok msg' ∧ Laid msg' ∧ (∀ c, dhcpMsgGetString msg' c = srcBytes src start c) ∧
      msg'.dataUsed = ∑ c, (start.options c).n ∧ msg'.dataAllocated = start.dataAllocated ∧ msg'.data.isSome := by
  let begun : DhcpBuf := { start with dataUsed := 0 }
  have initial : Copying src start [] begun :=
    { buffer := buffer
      allocated := rfl
      untouched := fun _ _ => rfl
      sizes := fun _ => rfl
      pointed := fun _ => rfl
      used := rfl
      laid := ⟨fun _ absent => absurd absent List.not_mem_nil,fun _ _ absent => absurd absent List.not_mem_nil⟩
      copied := fun _ absent => absurd absent List.not_mem_nil }
  have total : ((List.finRange dhcpNOptions).map fun c => (start.options c).n).sum = ∑ c, (start.options c).n := by
    rw [← List.ofFn_eq_map,List.sum_ofFn]
  obtain ⟨msg',loop,copying⟩ := copyLoopSpec counted (List.finRange dhcpNOptions) [] begun
    (by simpa using List.nodup_finRange dhcpNOptions) initial (by simpa [begun,total] using room)
  have used : msg'.dataUsed = ∑ c, (start.options c).n := by
    rw [copying.used]
    simpa [begun] using total
  refine ⟨msg',loop,?_,fun c => copying.copied c (by simp),used,copying.allocated,copying.buffer⟩
  exact
    { fits := by rw [used,copying.allocated]; exact room
      laid := copying.laid.mono fun c _ => by simp
      counted := fun c pointer => by
        rw [copying.sizes]
        refine counted c (Option.not_isSome_iff_eq_none.mp ?_)
        rw [← copying.pointed c,pointer]
        simp
      null := fun none => absurd copying.buffer (by simp [none]) }

end Copy

section Prealloc
variable {msg : DhcpBuf}

theorem preallocSpec (laid : Laid msg) (k : Nat) :
    ∃ msg', preallocData msg k = .ok msg' ∧ Laid msg' ∧ (∀ c, dhcpMsgGetString msg' c = dhcpMsgGetString msg c) ∧
      msg'.dataUsed + k ≤ msg'.dataAllocated ∧ (msg'.data.isSome ↔ msg.data.isSome ∨ 0 < k) := by
  unfold preallocData
  dsimp only
  split
  · rename_i short
    cases buffer : msg.data with
    | some old =>
      have room : ∑ c, (msg.options c).n ≤ max ((msg.dataUsed + k) * 2) 64 :=
        laid.sumLe.trans (le_max_of_le_left (by omega))
      obtain ⟨msg',copied,laid',read,used,allocated,buffer'⟩ :=
        @copyDataSpec old { msg with dataAllocated := max ((msg.dataUsed + k) * 2) 64,data := some fresh }
          laid.counted rfl room
      refine ⟨msg',copied,laid',fun c => ?_,?_,?_⟩
      · rw [read c,srcBytes]
        simp [dhcpMsgGetString,optionBytes,buffer,Option.map_eq_bind]
      · rw [used,allocated]
        have := laid.sumLe
        dsimp only
        omega
      · simp [buffer']
    | none =>
      obtain ⟨unused,unallocated,nulls⟩ := laid.null buffer
      have empty : ∀ c, (msg.options c).region = ∅ := fun c => by
        simp [DhcpOption.region,laid.counted c (nulls c)]
      refine ⟨_,rfl,?_,fun c => ?_,?_,?_⟩
      · exact
          { fits := by dsimp only; omega
            laid := ⟨fun c _ => by simp [empty c],fun c d _ _ _ => by simp [empty c]⟩
            counted := laid.counted
            null := fun absent => by cases absent }
      · rw [getStringNull (nulls c)]
        exact getStringNull (nulls c)
      · dsimp only
        omega
      · simp only [Option.isSome_some,Option.isSome_none,Bool.false_eq_true,false_or,true_iff]
        omega
  · rename_i enough
    refine ⟨msg,rfl,laid,fun _ => rfl,by omega,?_⟩
    cases buffer : msg.data with
    | some _ => simp
    | none =>
      have unallocated := (laid.null buffer).2.1
      simp only [Option.isSome_none,Bool.false_eq_true,false_or,false_iff]
      omega

end Prealloc

section Put
variable {msg : DhcpBuf} {code : Code}

theorem growLast {p n : Nat} (data : List UInt8) (buffer : msg.data.isSome) (pointer : (msg.options code).data = some p)
    (sized : (msg.options code).n = n) (ends : p + n = msg.dataUsed) (laid : LaidOn (fun c => c ≠ code) msg)
    (before : ∀ c, c ≠ code → (msg.options c).region ⊆ Finset.range p) :
    LaidOn (fun _ => True) (growOption msg code n data) ∧
      dhcpMsgGetString (growOption msg code n data) code = (dhcpMsgGetString msg code).map (fun old => old ++ data) ∧
      ∀ c, c ≠ code → dhcpMsgGetString (growOption msg code n data) c = dhcpMsgGetString msg c := by
  obtain ⟨mem,stored⟩ := Option.isSome_iff_exists.mp buffer
  have others : ∀ c, c ≠ code → (growOption msg code n data).options c = msg.options c :=
    fun c other => Function.update_of_ne other _ _
  have grownRegion : ((growOption msg code n data).options code).region = Memory.region p (n + data.length) := by
    simp [growOption,DhcpOption.region,pointer]
  refine ⟨⟨fun c _ => ?_,fun c d _ _ distinct => ?_⟩,?_,fun c other => ?_⟩
  · show _ ⊆ Finset.range (msg.dataUsed + data.length)
    by_cases here : c = code
    · rw [here,grownRegion]
      exact Memory.regionWithin.mpr (.inr (by omega))
    · rw [others c here]
      exact (before c here).trans (Finset.range_subset_range.mpr (by omega))
  · by_cases first : c = code
    · rw [first,grownRegion,others d (first ▸ Ne.symm distinct)]
      exact (Memory.regionsApartAt (before d (first ▸ Ne.symm distinct))).symm
    · by_cases second : d = code
      · rw [second,grownRegion,others c first]
        exact Memory.regionsApartAt (before c first)
      · rw [others c first,others d second]
        exact laid.apart c d first second distinct
  · -- the old bytes, untouched, then the data written right after them
    have written : (growOption msg code n data).data = some (Memory.write mem msg.dataUsed data) := by
      simp [growOption,appendData,stored]
    have pointer' : ((growOption msg code n data).options code).data = some p := by
      simp [growOption,pointer]
    have old : Memory.read (Memory.write mem msg.dataUsed data) p n = Memory.read mem p n :=
      Memory.readWriteOutside mem (Memory.regionsApart (.inl (le_of_eq ends)))
    have new : Memory.read (Memory.write mem msg.dataUsed data) (p + n) data.length = data := by
      rw [ends]
      exact Memory.readWriteSelf mem _ data
    rw [getStringSome written pointer',getStringSome stored pointer,sized]
    simp [growOption,Memory.readAdd,old,new]
  · rw [dhcpMsgGetString,others c other]
    exact appendKeeps msg data ((before c other).trans (Finset.range_subset_range.mpr (by omega)))

/- Where dhcp_msg_put stands before append_data(msg, data, n): the option, with the bytes it had, ends the
buffer, and the others lie before it. -/
structure ReadyToGrow (msg m : DhcpBuf) (code : Code) (p : Nat) : Prop where
  buffer : m.data.isSome
  pointer : (m.options code).data = some p
  sized : (m.options code).n = (msg.options code).n
  ends : p + (msg.options code).n = m.dataUsed
  used : m.dataUsed ≤ msg.dataUsed + (msg.options code).n
  allocated : m.dataAllocated = msg.dataAllocated
  laid : LaidOn (fun c => c ≠ code) m
  before : ∀ c, c ≠ code → (m.options c).region ⊆ Finset.range p
  kept : ∀ c, c ≠ code → m.options c = msg.options c
  read : dhcpMsgGetString m code = some ((dhcpMsgGetString msg code).getD [])
  others : ∀ c, c ≠ code → dhcpMsgGetString m c = dhcpMsgGetString msg c

theorem appendOptionReady (laid : Laid msg) (data : List UInt8) (buffer : msg.data.isSome) :
    ∃ m p, appendOption msg code data = growOption m code (msg.options code).n data ∧ ReadyToGrow msg m code p := by
  obtain ⟨mem,stored⟩ := Option.isSome_iff_exists.mp buffer
  by_cases zero : (msg.options code).n = 0
  · -- opt->data = append_data(msg, data, n), with nothing before it
    refine ⟨{ msg with options := Function.update msg.options code { msg.options code with data := some msg.dataUsed } },
      msg.dataUsed,?_,?_⟩
    · simp [appendOption,zero,growOption,placeOption,appendData,stored]
    · have kept : ∀ c, c ≠ code → (Function.update msg.options code
          { msg.options code with data := some msg.dataUsed }) c = msg.options c := fun c other =>
        Function.update_of_ne other _ _
      have none : (dhcpMsgGetString msg code).getD [] = [] :=
        List.eq_nil_of_length_eq_zero ((laid.stringLength code).trans zero)
      exact
        { buffer := buffer
          pointer := by simp
          sized := by simp
          ends := by simp [zero]
          used := by simp
          allocated := rfl
          laid := ⟨fun c other => by simp only [kept c other]; exact laid.laid.inside c trivial,
            fun c d inC inD distinct => by
              simp only [kept c inC,kept d inD]
              exact laid.laid.apart c d trivial trivial distinct⟩
          before := fun c other => by simp only [kept c other]; exact laid.laid.inside c trivial
          kept := kept
          read := by
            rw [none]
            simp [dhcpMsgGetString,optionBytes,stored,zero,Memory.read]
          others := fun c other => by simp only [dhcpMsgGetString,kept c other]; rfl }
  · obtain ⟨off,pointer⟩ : ∃ off, (msg.options code).data = some off :=
      Option.ne_none_iff_exists'.mp fun null => zero (laid.counted code null)
    have bytes : (optionBytes msg (msg.options code)).getD [] = Memory.read mem off (msg.options code).n := by
      simp [optionBytes,pointer,stored]
    by_cases moved : some (msg.dataUsed - (msg.options code).n) ≠ (msg.options code).data
    · -- opt->data = append_data(msg, opt->data, opt->n)
      have sized : ((optionBytes msg (msg.options code)).getD []).length = (msg.options code).n := by
        rw [bytes,Memory.readLength]
      have placed := placeLaid msg _ laid.laid buffer sized
      refine ⟨placeOption msg code ((optionBytes msg (msg.options code)).getD []),msg.dataUsed,?_,?_⟩
      · simp only [appendOption,ne_eq,zero,not_false_eq_true,if_true,moved]
      · exact
          { buffer := by simpa using buffer
            pointer := by rw [placeOptionSelf,stored]; rfl
            sized := by rw [placeOptionSelf]
            ends := by rw [placeOptionUsed,sized]
            used := by rw [placeOptionUsed,sized]
            allocated := rfl
            laid := placed.mono fun _ _ => Or.inl trivial
            before := fun c other => (placeOptionOther msg _ other).symm ▸ laid.laid.inside c trivial
            kept := fun c other => placeOptionOther msg _ other
            read := by rw [placeReads msg _ buffer sized]; rfl
            others := fun c other => placeKeeps msg _ other (laid.laid.inside c trivial) }
    · -- the bytes already end the buffer
      push Not at moved
      rw [pointer] at moved
      have inside := Memory.regionWithin.mp (laid.laid.inside code trivial)
      simp only [pointer,Option.getD_some,zero,false_or] at inside
      have ends : off + (msg.options code).n = msg.dataUsed := by
        have := Option.some.inj moved
        omega
      refine ⟨msg,off,?_,?_⟩
      · simp only [appendOption,ne_eq,zero,not_false_eq_true,if_true,pointer,moved,not_true_eq_false,if_false]
      · exact
          { buffer := buffer
            pointer := pointer
            sized := rfl
            ends := ends
            used := by omega
            allocated := rfl
            laid := laid.laid.mono fun _ _ => trivial
            before := fun c other => by
              refine @Memory.regionBefore ((msg.options c).data.getD 0) (msg.options c).n off (msg.options code).n ?_ ?_
              · rw [ends]
                exact laid.laid.inside c trivial
              · have apart := laid.laid.apart c code trivial trivial other
                simpa [DhcpOption.region,pointer] using apart
            kept := fun _ _ => rfl
            read := by rw [getStringSome stored pointer]; rfl
            others := fun _ _ => rfl }

theorem appendOptionSpec (laid : Laid msg) (data : List UInt8) (buffer : msg.data.isSome)
    (room : msg.dataUsed + (data.length + (msg.options code).n) ≤ msg.dataAllocated) :
    Laid (appendOption msg code data) ∧
      dhcpMsgGetString (appendOption msg code data) code = some ((dhcpMsgGetString msg code).getD [] ++ data) ∧
      (∀ c, c ≠ code → dhcpMsgGetString (appendOption msg code data) c = dhcpMsgGetString msg c) ∧
      (appendOption msg code data).data.isSome := by
  obtain ⟨m,p,shape,ready⟩ := appendOptionReady laid data buffer
  obtain ⟨laid',grown,others⟩ := growLast data ready.buffer ready.pointer ready.sized ready.ends ready.laid ready.before
  have kept : ∀ c, c ≠ code → (growOption m code (msg.options code).n data).options c = msg.options c :=
    fun c other => (Function.update_of_ne other _ _).trans (ready.kept c other)
  rw [shape]
  refine ⟨?_,by rw [grown,ready.read]; rfl,fun c other => (others c other).trans (ready.others c other),?_⟩
  · exact
      { fits := by
          have := ready.used
          have := ready.allocated
          simp only [growOption,appendDataUsed,appendDataAllocated]
          omega
        laid := laid'
        counted := fun c null => by
          by_cases here : c = code
          · subst here
            simp [growOption,ready.pointer] at null
          · rw [kept c here] at null ⊢
            exact laid.counted c null
        null := fun null => by
          have absent : m.data = none := by simpa [growOption,appendData] using null
          exact absurd ready.buffer (by simp [absent]) }
  · simpa [growOption] using ready.buffer

end Put

section Refinement
variable {msg : DhcpBuf} {abs : DhcpMsg}

/- The buffer reads back what the abstract message's options hold, and has a buffer exactly when the abstract
one does. -/
structure Refines (msg : DhcpBuf) (abs : DhcpMsg) : Prop where
  options : ∀ c : Code, dhcpMsgGetString msg c = abs.options c.val
  allocated : msg.data.isSome = abs.allocated

theorem refinesInit : Refines dhcpMsgInit Dhcp.dhcpMsgInit := ⟨fun _ => rfl,rfl⟩

theorem getStringNoBuffer (buffer : msg.data = none) (c : Code) : dhcpMsgGetString msg c = none := by
  simp [dhcpMsgGetString,optionBytes,buffer]

theorem appendOptionNull (laid : Laid msg) (buffer : msg.data = none) (code : Code) : appendOption msg code [] = msg := by
  obtain ⟨_,_,nulls⟩ := laid.null buffer
  have zero := laid.counted code (nulls code)
  have empty : msg.options code = ⟨none,0⟩ := by
    have null := nulls code
    cases h : msg.options code
    simp_all
  have same : Function.update msg.options code ⟨none,0⟩ = msg.options := Function.update_eq_self_iff.mpr empty.symm
  simp only [appendOption,ne_eq,not_true_eq_false,if_false,placeOption,appendData,buffer,Option.map_none,
    List.length_nil,Nat.add_zero,empty,same]
  rw [← buffer]

theorem putRefines (laid : Laid msg) (refines : Refines msg abs) (code : Code) (data : List UInt8) :
    ∃ msg', dhcpMsgPut msg code data = .ok msg' ∧ Laid msg' ∧ Refines msg' (Dhcp.dhcpMsgPut abs code.val data) := by
  by_cases skip : code.val = dhcpCodePad ∨ code.val = dhcpCodeEnd
  · exact ⟨msg,by simp [dhcpMsgPut,skip],laid,by simpa [Dhcp.dhcpMsgPut,skip] using refines⟩
  obtain ⟨m1,pre,laid1,views1,room,buffer1⟩ := preallocSpec laid (data.length + (msg.options code).n)
  have put : dhcpMsgPut msg code data = .ok (appendOption m1 code data) := by
    simp [dhcpMsgPut,skip,pre,bind,Except.bind,pure,Except.pure]
  have abstractOther : ∀ c : Code, c ≠ code → (Dhcp.dhcpMsgPut abs code.val data).options c.val = abs.options c.val :=
    fun c other => by simp [Dhcp.dhcpMsgPut,skip,Function.update_of_ne (Fin.val_ne_of_ne other)]
  cases buffer : m1.data with
  | some mem =>
    have sizes : (m1.options code).n = (msg.options code).n := by
      rw [← laid1.stringLength,← laid.stringLength,views1]
    obtain ⟨laid',read,others,buffer'⟩ := appendOptionSpec laid1 data (by simp [buffer]) (sizes ▸ room)
    have allocated : (abs.allocated || !data.isEmpty) = true := by
      rw [← refines.allocated]
      by_cases had : msg.data.isSome
      · simp [had]
      · have unheld := laid.counted code ((laid.null (Option.not_isSome_iff_eq_none.mp had)).2.2 code)
        have asked := buffer1.mp (by simp [buffer])
        simp only [had,false_or,Bool.false_eq_true] at asked
        have full : data ≠ [] := fun empty => by simp [empty,unheld] at asked
        simp [had,full]
    refine ⟨_,put,laid',⟨fun c => ?_,?_⟩⟩
    · by_cases here : c = code
      · subst here
        rw [read,views1,refines.options]
        simp only [Dhcp.dhcpMsgPut,skip,if_false,Function.update_self,allocated]
        split <;> simp_all
      · rw [others c here,views1,refines.options,abstractOther c here]
    · simp only [Dhcp.dhcpMsgPut,skip,if_false,allocated,buffer']
  | none =>
    have asked := buffer1
    simp only [buffer,Option.isSome_none,Bool.false_eq_true,false_iff,not_or] at asked
    have empty : data = [] := List.eq_nil_of_length_eq_zero (by omega)
    have unheld : msg.data = none := Option.not_isSome_iff_eq_none.mp asked.1
    subst empty
    refine ⟨_,put,?_,⟨fun c => ?_,?_⟩⟩
    · rw [appendOptionNull laid1 buffer code]
      exact laid1
    · rw [appendOptionNull laid1 buffer code,getStringNoBuffer buffer]
      by_cases here : c = code
      · subst here
        have absent := (refines.options c).symm.trans (getStringNoBuffer unheld c)
        simp [Dhcp.dhcpMsgPut,skip,absent,← refines.allocated,unheld]
      · rw [abstractOther c here,← refines.options,getStringNoBuffer unheld]
    · rw [appendOptionNull laid1 buffer code,buffer]
      simp [Dhcp.dhcpMsgPut,skip,← refines.allocated,unheld]

theorem putsRefine : ∀ (puts : List (Code × List UInt8)) (msg : DhcpBuf) (abs : DhcpMsg), Laid msg → Refines msg abs →
    ∃ msg', dhcpMsgPuts msg puts = .ok msg' ∧ Laid msg' ∧
      Refines msg' (puts.foldl (fun m put => Dhcp.dhcpMsgPut m put.1.val put.2) abs)
  | [], msg, _, laid, refines => ⟨msg,rfl,laid,refines⟩
  | put :: puts, msg, abs, laid, refines => by
    obtain ⟨msg1,first,laid1,refines1⟩ := putRefines laid refines put.1 put.2
    obtain ⟨msg2,rest,laid2,refines2⟩ := putsRefine puts msg1 _ laid1 refines1
    exact ⟨msg2,by simp [dhcpMsgPuts,first,rest,bind,Except.bind],laid2,refines2⟩

end Refinement

section Copying
variable {msg : DhcpBuf}

theorem copySpec (laid : Laid msg) :
    ∃ copy, dhcpMsgCopy msg = .ok copy ∧ Laid copy ∧ (∀ c, dhcpMsgGetString copy c = dhcpMsgGetString msg c) ∧
      copy.dataAllocated = msg.dataUsed := by
  obtain ⟨copy,copied,laid',read,_,allocated,_⟩ :=
    @copyDataSpec (msg.data.getD fresh) { msg with dataAllocated := msg.dataUsed,dataUsed := 0,data := some fresh }
      laid.counted rfl laid.sumLe
  refine ⟨copy,copied,laid',fun c => ?_,allocated⟩
  rw [read c,srcBytes]
  cases buffer : msg.data with
  | some mem => simp [dhcpMsgGetString,optionBytes,buffer,Option.map_eq_bind]
  | none => simp [dhcpMsgGetString,optionBytes,buffer,(laid.null buffer).2.2 c]

end Copying

section ReadBack

/- The bytes put to a code, in call order. -/
def putBytes (puts : List (Code × List UInt8)) (c : Code) : List UInt8 :=
  puts.flatMap fun put => if put.1 = c then put.2 else []

theorem dhcpMsgPutAppends (abs : DhcpMsg) (code c : Nat) (data : List UInt8) (notPad : c ≠ dhcpCodePad)
    (notEnd : c ≠ dhcpCodeEnd) :
    ((Dhcp.dhcpMsgPut abs code data).options c).getD [] = (abs.options c).getD [] ++ if code = c then data else [] := by
  unfold Dhcp.dhcpMsgPut
  split
  · rename_i skip
    have other : code ≠ c := fun same => by rcases skip with pad | last <;> simp_all
    simp [other]
  · by_cases here : code = c
    · subst here
      simp only [Function.update_self,if_true]
      split
      · rfl
      · rename_i had
        push Not at had
        split <;> simp_all
    · simp [here,Function.update_of_ne (Ne.symm here)]

/- Every code other than PAD and END reads back the bytes put to it, through dhcp_msg_get_string and through
dhcp_msg_get. -/
structure ReadsBack (msg : DhcpBuf) (puts : List (Code × List UInt8)) : Prop where
  string : ∀ c : Code, c.val ≠ dhcpCodePad → c.val ≠ dhcpCodeEnd → (dhcpMsgGetString msg c).getD [] = putBytes puts c
  get : ∀ c : Code, c.val ≠ dhcpCodePad → c.val ≠ dhcpCodeEnd → ∀ offset size, 0 < size →
    dhcpMsgGet msg c offset size =
      if offset + size ≤ (putBytes puts c).length then some (((putBytes puts c).drop offset).take size) else none

theorem getSlice {msg : DhcpBuf} (laid : Laid msg) (c : Code) {bytes : List UInt8}
    (string : (dhcpMsgGetString msg c).getD [] = bytes) (offset size : Nat) (nonempty : 0 < size) :
    dhcpMsgGet msg c offset size = if offset + size ≤ bytes.length then some ((bytes.drop offset).take size) else none := by
  have length := laid.stringLength c
  rw [string] at length
  unfold dhcpMsgGet
  dsimp only
  rw [← length]
  split
  · -- a slice of at least one byte: the option has bytes, so its pointer is not null
    rename_i fits
    show (dhcpMsgGetString msg c).map _ = _
    cases read : dhcpMsgGetString msg c with
    | none =>
      rw [read] at string
      subst string
      simp at fits
      omega
    | some held =>
      rw [read] at string
      subst string
      rfl
  · rfl

theorem readsBackOf {msg : DhcpBuf} {abs : DhcpMsg} {puts : List (Code × List UInt8)} (laid : Laid msg)
    (refines : Refines msg (puts.foldl (fun m put => Dhcp.dhcpMsgPut m put.1.val put.2) abs))
    (empty : ∀ c : Code, abs.options c.val = none) : ReadsBack msg puts := by
  have appended : ∀ (puts : List (Code × List UInt8)) (abs : DhcpMsg) (c : Code), c.val ≠ dhcpCodePad →
      c.val ≠ dhcpCodeEnd → (((puts.foldl (fun m put => Dhcp.dhcpMsgPut m put.1.val put.2) abs).options c.val).getD []) =
        (abs.options c.val).getD [] ++ putBytes puts c := by
    intro puts
    induction puts with
    | nil => simp [putBytes]
    | cons put puts ih =>
      intro abs c notPad notEnd
      rw [List.foldl_cons,ih _ c notPad notEnd,dhcpMsgPutAppends abs _ _ _ notPad notEnd]
      simp [putBytes,Fin.val_inj]
  have string : ∀ c : Code, c.val ≠ dhcpCodePad → c.val ≠ dhcpCodeEnd →
      (dhcpMsgGetString msg c).getD [] = putBytes puts c := fun c notPad notEnd => by
    rw [refines.options c,appended puts abs c notPad notEnd,empty c]
    rfl
  exact ⟨string,fun c notPad notEnd offset size nonempty => getSlice laid c (string c notPad notEnd) offset size nonempty⟩

end ReadBack

theorem dhcpMsgPutsReadBack (puts : List (Code × List UInt8)) :
    ∃ msg, dhcpMsgPuts dhcpMsgInit puts = .ok msg ∧ Laid msg ∧ ReadsBack msg puts ∧
      ∃ copy, dhcpMsgCopy msg = .ok copy ∧ Laid copy ∧ ReadsBack copy puts := by
  obtain ⟨msg,run,laid,refines⟩ := putsRefine puts dhcpMsgInit Dhcp.dhcpMsgInit laidInit refinesInit
  have back := readsBackOf laid refines fun _ => rfl
  obtain ⟨copy,copied,laid',read,_⟩ := copySpec laid
  have string : ∀ c : Code, c.val ≠ dhcpCodePad → c.val ≠ dhcpCodeEnd →
      (dhcpMsgGetString copy c).getD [] = putBytes puts c := fun c notPad notEnd => by
    rw [read c]
    exact back.string c notPad notEnd
  exact ⟨msg,run,laid,back,copy,copied,laid',string,fun c notPad notEnd offset size nonempty =>
    getSlice laid' c (string c notPad notEnd) offset size nonempty⟩

end OpenFlow.DhcpBuffer
