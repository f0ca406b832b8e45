import Mathlib
import OpenFlow.Execute
import OpenFlow.Lib.Search

/-! Netlink attributes (lib/netlink.c): the `nl_msg_put_*` functions that append one attribute, the
`nl_attr_get_*` functions that read one back, and `nl_policy_parse`, which walks the attributes of a message
and stores where each one the policy knows starts. -/
namespace OpenFlow.Netlink
open Search

/- ROUND_UP(SIZE, 4) of NLMSG_ALIGN and NLA_ALIGN. -/
def nlaAlign (size : Nat) : Nat := (size + (4 - 1)) / 4 * 4

/- sizeof(struct nlattr) and sizeof(struct nlmsghdr). -/
def nlaHdrlen : Nat := nlaAlign 4
def nlmsgHdrlen : Nat := nlaAlign 16

def sizeMax : Nat := 2 ^ 64 - 1
def uint16Max : Nat := 65535

inductive NlAttrType where
  | noAttr
  | unspec
  | u8
  | u16
  | u32
  | u64
  | string
  | flag
  | nested
  deriving DecidableEq, Repr

/- attr_len_range: the default minimum and maximum payload of each type. -/
def attrLenRange : NlAttrType → Nat × Nat
  | .u8 => (1,1)
  | .u16 => (2,2)
  | .u32 => (4,4)
  | .u64 => (8,8)
  | .string => (1,sizeMax)
  | .flag => (0,sizeMax)
  | .nested => (nlmsgHdrlen,sizeMax)
  | _ => (0,sizeMax)

structure NlPolicy where
  type : NlAttrType
  minLen : Nat
  maxLen : Nat
  optional : Bool
  deriving DecidableEq, Repr

/-! Building and reading attributes. -/

/- nl_msg_put_unspec: the header, the payload and zeros up to the alignment, appended at the tail;
nl_msg_put_unspec_uninit asserts the aligned size fits in `nla_len`. -/
def nlMsgPutUnspec (msg : Ofpbuf) (type : UInt16) (data : List UInt8) : Except Halt Ofpbuf :=
  let totalSize := nlaHdrlen + data.length
  if nlaAlign totalSize ≤ uint16Max then
    pure (ofpbufPut msg (LittleEndian.ofUInt16 totalSize.toUInt16 ++ LittleEndian.ofUInt16 type ++ data ++
      List.replicate (nlaAlign totalSize - totalSize) 0))
  else .error .assertFailed

def nlMsgPutFlag (msg : Ofpbuf) (type : UInt16) : Except Halt Ofpbuf := nlMsgPutUnspec msg type []

def nlMsgPutU8 (msg : Ofpbuf) (type : UInt16) (value : UInt8) : Except Halt Ofpbuf := nlMsgPutUnspec msg type [value]

def nlMsgPutU16 (msg : Ofpbuf) (type : UInt16) (value : UInt16) : Except Halt Ofpbuf :=
  nlMsgPutUnspec msg type (LittleEndian.ofUInt16 value)

def nlMsgPutU32 (msg : Ofpbuf) (type : UInt16) (value : UInt32) : Except Halt Ofpbuf :=
  nlMsgPutUnspec msg type (LittleEndian.ofUInt32 value)

def nlMsgPutU64 (msg : Ofpbuf) (type : UInt16) (value : UInt64) : Except Halt Ofpbuf :=
  nlMsgPutUnspec msg type (LittleEndian.ofUInt32 value.toUInt32 ++ LittleEndian.ofUInt32 (value >>> 32).toUInt32)

/- nl_msg_put_string: the characters up to the first NUL, and the NUL. -/
def nlMsgPutString (msg : Ofpbuf) (type : UInt16) (value : List UInt8) : Except Halt Ofpbuf :=
  nlMsgPutUnspec msg type (value.takeWhile (· ≠ 0) ++ [0])

/- The `nla_len` of the attribute at `nla`. -/
def nlaLenAt (msg : Ofpbuf) (nla : Nat) : Nat := (msg.load16At (msg.data + nla)).toNat

/- nl_attr_get_unspec: the first `size` bytes of the payload, after the assertion. -/
def nlAttrGetUnspec (msg : Ofpbuf) (nla size : Nat) : Except Halt (List UInt8) :=
  if nlaLenAt msg nla ≥ nlaHdrlen + size then pure (msg.bytesAt (msg.data + nla + nlaHdrlen) size)
  else .error .assertFailed

def nlAttrGetU8 (msg : Ofpbuf) (nla : Nat) : Except Halt UInt8 := do
  let bytes ← nlAttrGetUnspec msg nla 1
  pure (bytes.getD 0 0)

def nlAttrGetU16 (msg : Ofpbuf) (nla : Nat) : Except Halt UInt16 := do
  let bytes ← nlAttrGetUnspec msg nla 2
  pure (LittleEndian.get16 bytes 0)

def nlAttrGetU32 (msg : Ofpbuf) (nla : Nat) : Except Halt UInt32 := do
  let bytes ← nlAttrGetUnspec msg nla 4
  pure (LittleEndian.get32 bytes 0)

def nlAttrGetU64 (msg : Ofpbuf) (nla : Nat) : Except Halt UInt64 := do
  let bytes ← nlAttrGetUnspec msg nla 8
  pure ((LittleEndian.get32 bytes 0).toUInt64 ||| ((LittleEndian.get32 bytes 4).toUInt64 <<< 32))

/- nl_attr_get_string: the payload up to its first NUL, which it asserts is there. -/
def nlAttrGetString (msg : Ofpbuf) (nla : Nat) : Except Halt (List UInt8) :=
  let payload := msg.bytesAt (msg.data + nla + nlaHdrlen) (nlaLenAt msg nla - nlaHdrlen)
  if nlaLenAt msg nla > nlaHdrlen ∧ 0 ∈ payload then pure (payload.takeWhile (· ≠ 0))
  else .error .assertFailed

/-! nl_policy_parse. -/

/- The NUL that memchr looks for, at an offset of the message. -/
def nulAt (msg : Ofpbuf) (i : Nat) : Option Unit := if msg.byteAt (msg.data + i) = 0 then some () else none

/- min_len and max_len: the entry's own bounds, or its type's where they are 0. -/
def policyRange (pol : NlPolicy) : Nat × Nat :=
  (if pol.minLen ≠ 0 then pol.minLen else (attrLenRange pol.type).1,
    if pol.maxLen ≠ 0 then pol.maxLen else (attrLenRange pol.type).2)

/- The checks of one attribute the policy knows, at offset `p` with length `nlaLen`: its payload length
against the range, and for NL_A_STRING a NUL as the last byte and none before it. -/
def checkAttr (msg : Ofpbuf) (pol : NlPolicy) (p nlaLen : Nat) : Bool × List Nat :=
  let len := nlaLen - nlaHdrlen
  if len < (policyRange pol).1 ∨ len > (policyRange pol).2 then (false,[])
  else if pol.type = .string then
    let last := p + nlaLen - 1
    if msg.byteAt (msg.data + last) ≠ 0 then (false,[last])
    else
      match first (nulAt msg) (p + nlaHdrlen) (len - 1) with
      | some hit => (false,last :: List.range' (p + nlaHdrlen) (hit.1 + 1 - (p + nlaHdrlen)))
      | none => (true,last :: List.range' (p + nlaHdrlen) (len - 1))
  else (true,[])

/- The loop over the attributes from offset `p`, with what it has stored, the count of required attributes not
seen yet and the offsets read so far. -/
def parseAttrs (msg : Ofpbuf) (policy : List NlPolicy) (p : Nat) (attrs : List (Option Nat)) (nRequired : Nat)
    (reads : List Nat) : Except Halt (Bool × List (Option Nat) × List Nat) :=
  if _within : p < msg.size then
    let nlaLen := nlaLenAt msg p
    let reads := reads ++ [p,p + 1]
    if _short : nlaLen < nlaHdrlen then pure (false,attrs,reads)
    else if nlaAlign (nlaLen - nlaHdrlen) > msg.size - p then pure (false,attrs,reads)
    else
      let type := (msg.load16At (msg.data + p + 2)).toNat
      let reads := reads ++ [p + 2,p + 3]
      match policy[type]? with
      | some pol =>
        if pol.type ≠ .noAttr then
          let checked := checkAttr msg pol p nlaLen
          let reads := reads ++ checked.2
          if !checked.1 then pure (false,attrs,reads)
          else if !pol.optional && (attrs.getD type none).isNone then
            if nRequired = 0 then .error .assertFailed
            else parseAttrs msg policy (p + nlaAlign nlaLen) (attrs.set type (some p)) (nRequired - 1) reads
          else parseAttrs msg policy (p + nlaAlign nlaLen) (attrs.set type (some p)) nRequired reads
        else parseAttrs msg policy (p + nlaAlign nlaLen) attrs nRequired reads
      | none => parseAttrs msg policy (p + nlaAlign nlaLen) attrs nRequired reads
  else pure (nRequired == 0,attrs,reads)
termination_by msg.size - p
decreasing_by all_goals (simp only [nlaAlign,nlaHdrlen] at *; omega)

/- nl_policy_parse: whether it succeeds, where each attribute `attrs[i]` starts, and the offsets it reads. -/
def nlPolicyParse (msg : Ofpbuf) (nlaOffset : Nat) (policy : List NlPolicy) :
    Except Halt (Bool × List (Option Nat) × List Nat) :=
  let nRequired := (policy.filter fun pol => pol.type ≠ .noAttr && pol.type ≠ .flag && !pol.optional).length
  let attrs := List.replicate policy.length none
  if nlaOffset ≤ msg.size then parseAttrs msg policy nlaOffset attrs nRequired []
  else pure (false,attrs,[])

section Parse

@[simp] theorem nlaHdrlenEq : nlaHdrlen = 4 := rfl

theorem nlaAlignOfMod {n : Nat} (aligned : n % 4 = 0) : nlaAlign n = n := by
  unfold nlaAlign
  omega

theorem parseAttrsPast {msg : Ofpbuf} {policy : List NlPolicy} {p : Nat} (past : msg.size ≤ p)
    (attrs : List (Option Nat)) (nRequired : Nat) (reads : List Nat) :
    parseAttrs msg policy p attrs nRequired reads = pure (nRequired == 0,attrs,reads) := by
  rw [parseAttrs,dif_neg (by omega)]

theorem checkAttrString {msg : Ofpbuf} {pol : NlPolicy} {p nlaLen : Nat} (string : pol.type = .string)
    (defaultMin : pol.minLen = 0) (defaultMax : pol.maxLen = 0) (nonempty : 5 ≤ nlaLen) (bounded : nlaLen - 4 ≤ sizeMax)
    (terminated : msg.byteAt (msg.data + (p + nlaLen - 1)) = 0)
    (noNul : ∀ i, p + 4 ≤ i → i < p + 4 + (nlaLen - 4 - 1) → msg.byteAt (msg.data + i) ≠ 0) :
    checkAttr msg pol p nlaLen = (true,(p + nlaLen - 1) :: List.range' (p + 4) (nlaLen - 4 - 1)) := by
  have none : first (nulAt msg) (p + 4) (nlaLen - 4 - 1) = none :=
    firstNone fun k low high => by simp [nulAt,noNul k low high]
  unfold checkAttr
  simp only [nlaHdrlenEq,policyRange,string,defaultMin,defaultMax,attrLenRange,ne_eq,not_true_eq_false,↓reduceIte]
  rw [if_neg (by omega),if_neg (by simpa using terminated),none]

end Parse

section Touched

/- What the parse has read and stored so far lies below the tail plus one header. -/
def Touched (msg : Ofpbuf) (attrs : List (Option Nat)) (reads : List Nat) : Prop :=
  (∀ x, some x ∈ attrs → x + nlaLenAt msg x ≤ msg.size + nlaHdrlen) ∧ ∀ i ∈ reads, i < msg.size + nlaHdrlen

variable {msg : Ofpbuf} {attrs : List (Option Nat)} {reads : List Nat}

end Touched

section PastTail

/- An attribute whose `nla_len` claims the whole message and four bytes more is taken as a string that ends
past the tail: its aligned payload is as long as the bytes left, header included. -/
theorem policyParsePastTail (msg : Ofpbuf) (room : 4 ≤ msg.size) (aligned : msg.size % 4 = 0)
    (claimed : nlaLenAt msg 0 = msg.size + 4) (fits : msg.size + 4 ≤ uint16Max)
    (typed : msg.load16At (msg.data + 0 + 2) = 0)
    (noNul : ∀ i < msg.size + 3, 4 ≤ i → msg.byteAt (msg.data + i) ≠ 0)
    (terminated : msg.byteAt (msg.data + (msg.size + 3)) = 0) :
    ∃ reads, nlPolicyParse msg 0 [⟨.string,0,0,true⟩] = .ok (true,[some 0],reads) ∧
      msg.size < nlaLenAt msg 0 ∧ ∀ i, msg.size ≤ i → i < msg.size + 4 → i ∈ reads := by
  have check : checkAttr msg ⟨.string,0,0,true⟩ 0 (msg.size + 4) =
      (true,(0 + (msg.size + 4) - 1) :: List.range' (0 + 4) (msg.size + 4 - 4 - 1)) :=
    checkAttrString rfl rfl rfl (by omega) (by simp only [sizeMax,uint16Max] at fits ⊢; omega)
      (by simpa [show 0 + (msg.size + 4) - 1 = msg.size + 3 by omega] using terminated)
      (fun i low high => noNul i (by omega) (by omega))
  refine ⟨[0,0 + 1] ++ [0 + 2,0 + 3] ++ ((0 + (msg.size + 4) - 1) :: List.range' (0 + 4) (msg.size + 4 - 4 - 1)),?_,by omega,?_⟩
  · unfold nlPolicyParse
    rw [if_pos (Nat.zero_le _),parseAttrs,dif_pos (by omega)]
    simp only [claimed,nlaHdrlenEq,typed]
    rw [dif_neg (by omega),if_neg (by rw [show msg.size + 4 - 4 = msg.size by omega,nlaAlignOfMod aligned]; omega)]
    simp only [UInt16.toNat_zero,List.getElem?_cons_zero,ne_eq,reduceCtorEq,not_false_eq_true,if_true,check,
      Bool.not_true,Bool.false_eq_true,if_false,Bool.not_true,Bool.false_and]
    rw [parseAttrsPast (by rw [nlaAlignOfMod (by omega)]; omega)]
    rfl
  · intro i low high
    simp only [List.mem_append,List.mem_cons,List.mem_range'_1]
    omega

/- Eight bytes: a header claiming twelve, then seven characters; the NUL after them is in the buffer's
tailroom. -/
def shortString : Ofpbuf := ⟨[12,0,0,0,97,97,97,97,97,97,97,0],0,8,none,none,none,none⟩

theorem shortStringPastTail :
    ∃ reads, nlPolicyParse shortString 0 [⟨.string,0,0,true⟩] = .ok (true,[some 0],reads) ∧
      shortString.size < nlaLenAt shortString 0 ∧ ∀ i, shortString.size ≤ i → i < shortString.size + 4 → i ∈ reads :=
  policyParsePastTail shortString (by decide) (by decide) (by decide) (by decide) (by decide) (by decide) (by decide)

end PastTail

section Flag

end Flag

end OpenFlow.Netlink
