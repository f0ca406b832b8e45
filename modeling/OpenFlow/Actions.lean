import OpenFlow.Flow
import OpenFlow.Lib.ByteOrder
import OpenFlow.Lib.WhileLoop

/-! Action lists as the datapath receives them: the raw bytes of consecutive ofp_action_* structs, each
starting with a 16-bit type and a 16-bit length (include/openflow/openflow.h). -/
namespace OpenFlow.Actions
open WhileLoop

def ofpatOutput : UInt16 := 0
def ofpatSetVlanVid : UInt16 := 1
def ofpatSetVlanPcp : UInt16 := 2
def ofpatStripVlan : UInt16 := 3
def ofpatSetDlSrc : UInt16 := 4
def ofpatSetDlDst : UInt16 := 5
def ofpatSetNwSrc : UInt16 := 6
def ofpatSetNwDst : UInt16 := 7
def ofpatSetNwTos : UInt16 := 8
def ofpatSetTpSrc : UInt16 := 9
def ofpatSetTpDst : UInt16 := 10
def ofpatEnqueue : UInt16 := 11
def ofpatVendor : UInt16 := 0xffff

/- enum ofp_port -/
def ofppMax : UInt16 := 0xff00
def ofppInPort : UInt16 := 0xfff8
def ofppTable : UInt16 := 0xfff9
def ofppNormal : UInt16 := 0xfffa
def ofppFlood : UInt16 := 0xfffb
def ofppAll : UInt16 := 0xfffc
def ofppController : UInt16 := 0xfffd
def ofppLocal : UInt16 := 0xfffe
def ofppNone : UInt16 := 0xffff

/- enum ofp_bad_action_code, and ACT_VALIDATION_OK = (uint16_t)-1 (dp_act.h) -/
def ofpbacBadType : UInt16 := 0
def ofpbacBadLen : UInt16 := 1
def ofpbacBadVendor : UInt16 := 2
def ofpbacBadOutPort : UInt16 := 4
def actValidationOk : UInt16 := 0xffff

/- sizeof(struct ofp_action_header) -/
def actionHeaderLen : Nat := 8

def actionType (acts : List UInt8) (p : Nat) : UInt16 := BigEndian.get16 acts p

def actionLen (acts : List UInt8) (p : Nat) : Nat := (BigEndian.get16 acts (p + 2)).toNat

/- ofp_action_output.port and .max_len; ofp_action_enqueue.port shares the offset. -/
def outputPort (acts : List UInt8) (p : Nat) : UInt16 := BigEndian.get16 acts (p + 4)

def outputMaxLen (acts : List UInt8) (p : Nat) : UInt16 := BigEndian.get16 acts (p + 6)

def enqueueQueueId (acts : List UInt8) (p : Nat) : UInt32 := BigEndian.get32 acts (p + 12)

/- The wire image of struct ofp_action_output, as a controller builds it. -/
def ofpActionOutput (port maxLen : UInt16) : List UInt8 :=
  BigEndian.ofUInt16 ofpatOutput ++ BigEndian.ofUInt16 8 ++ BigEndian.ofUInt16 port ++ BigEndian.ofUInt16 maxLen

@[simp] theorem lengthOfpActionOutput (port maxLen : UInt16) : (ofpActionOutput port maxLen).length = 8 := rfl

/- struct ofp_action_tp_port (SET_TP_SRC, SET_TP_DST) and struct ofp_action_nw_tos, as a controller builds
them. -/
def ofpActionTpPort (type port : UInt16) : List UInt8 :=
  BigEndian.ofUInt16 type ++ BigEndian.ofUInt16 8 ++ BigEndian.ofUInt16 port ++ [0,0]

def ofpActionNwTos (tos : UInt8) : List UInt8 := BigEndian.ofUInt16 ofpatSetNwTos ++ BigEndian.ofUInt16 8 ++ [tos,0,0,0]

theorem readOfpActionOutput (pre rest : List UInt8) (port maxLen : UInt16) :
    actionType (pre ++ ofpActionOutput port maxLen ++ rest) pre.length = ofpatOutput ∧
    actionLen (pre ++ ofpActionOutput port maxLen ++ rest) pre.length = 8 ∧
    outputPort (pre ++ ofpActionOutput port maxLen ++ rest) pre.length = port ∧
    outputMaxLen (pre ++ ofpActionOutput port maxLen ++ rest) pre.length = maxLen := by
  have fieldAt : ∀ (pre' rest' : List UInt8) (v : UInt16) (off : Nat), off = pre'.length →
      pre ++ ofpActionOutput port maxLen ++ rest = pre' ++ BigEndian.ofUInt16 v ++ rest' →
      BigEndian.get16 (pre ++ ofpActionOutput port maxLen ++ rest) off = v := by
    rintro pre' rest' v off rfl eq
    rw [eq]
    exact BigEndian.get16Field pre' rest' v
  open BigEndian in
  have len : get16 (pre ++ ofpActionOutput port maxLen ++ rest) (pre.length + 2) = 8 :=
    fieldAt (pre ++ ofUInt16 ofpatOutput) (ofUInt16 port ++ ofUInt16 maxLen ++ rest) 8 _ (by simp)
      (by simp [ofpActionOutput])
  open BigEndian in
  refine ⟨fieldAt pre (ofUInt16 8 ++ ofUInt16 port ++ ofUInt16 maxLen ++ rest) ofpatOutput _ rfl
    (by simp [ofpActionOutput]),?_,?_,?_⟩
  · simp only [actionLen,len]
    rfl
  · exact fieldAt (pre ++ BigEndian.ofUInt16 ofpatOutput ++ BigEndian.ofUInt16 8) (BigEndian.ofUInt16 maxLen ++ rest)
      port _ (by simp) (by simp [ofpActionOutput])
  · exact fieldAt (pre ++ BigEndian.ofUInt16 ofpatOutput ++ BigEndian.ofUInt16 8 ++ BigEndian.ofUInt16 port) rest
      maxLen _ (by simp) (by simp [ofpActionOutput])

/- The min_size and max_size columns of of_actions[], indexed by type; the array has ARRAY_SIZE(of_actions) =
OFPAT_ENQUEUE + 1 entries. -/
def ofActionsSize : UInt16 := ofpatEnqueue + 1

def actionSizes (type : UInt16) : Nat × Nat :=
  if type = ofpatSetDlSrc ∨ type = ofpatSetDlDst ∨ type = ofpatEnqueue then (16,16) else (8,8)

def validateOutput (key : SwFlowKey) (acts : List UInt8) (p : Nat) : UInt16 :=
  let port := outputPort acts p
  if port = ofppNone ∨ (!wild key.wildcards ofpfwInPort && port == key.flow.inPort) then ofpbacBadOutPort
  else actValidationOk

def validateQueue (acts : List UInt8) (p : Nat) : UInt16 :=
  let port := outputPort acts p
  if port > ofppMax ∧ port ≠ ofppInPort then ofpbacBadOutPort else actValidationOk

def validateOfpat (key : SwFlowKey) (acts : List UInt8) (p : Nat) (type : UInt16) (len : Nat) : UInt16 :=
  if len < (actionSizes type).1 ∨ len > (actionSizes type).2 then ofpbacBadLen
  else if type = ofpatOutput then validateOutput key acts p
  else if type = ofpatEnqueue then validateQueue acts p
  else actValidationOk

/- No vendor is known: every vendor action is rejected, by length or by vendor. -/
def validateVendor (len : Nat) : UInt16 :=
  if len < actionHeaderLen then ofpbacBadLen else ofpbacBadVendor

def validateOne (key : SwFlowKey) (acts : List UInt8) (p : Nat) (len : Nat) : UInt16 :=
  let type := actionType acts p
  if type < ofActionsSize then validateOfpat key acts p type len
  else if type = ofpatVendor then validateVendor len
  else ofpbacBadType

theorem actionSizesMin (type : UInt16) : 8 ≤ (actionSizes type).1 := by
  unfold actionSizes; split <;> simp

theorem validateOneLen {key : SwFlowKey} {acts : List UInt8} {p len : Nat}
    (ok : validateOne key acts p len = actValidationOk) : 8 ≤ len := by
  unfold validateOne at ok
  dsimp only at ok
  split at ok
  · unfold validateOfpat at ok
    split at ok
    · simp [ofpbacBadLen,actValidationOk] at ok
    · rename_i sizes
      have := actionSizesMin (actionType acts p)
      omega
  · split at ok
    · unfold validateVendor at ok
      split at ok <;> simp [ofpbacBadLen,ofpbacBadVendor,actValidationOk] at ok
    · simp [ofpbacBadType,actValidationOk] at ok

/- The loop of validate_actions from offset `p` with `rem` bytes left. -/
def validateActionsFrom (key : SwFlowKey) (acts : List UInt8) (p rem : Nat) : UInt16 :=
  if actionHeaderLen ≤ rem then
    let len := actionLen acts p
    if _bad : rem < len ∨ len % 8 ≠ 0 then ofpbacBadLen
    else if ok : validateOne key acts p len = actValidationOk then
      validateActionsFrom key acts (p + len) (rem - len)
    else validateOne key acts p len
  else if rem ≠ 0 then ofpbacBadLen
  else actValidationOk
termination_by rem
decreasing_by have := validateOneLen ok; omega

def validateActions (key : SwFlowKey) (acts : List UInt8) (actionsLen : Nat) : UInt16 :=
  validateActionsFrom key acts 0 actionsLen

theorem validateActionsEmpty (key : SwFlowKey) (acts : List UInt8) : validateActions key acts 0 = actValidationOk := by
  unfold validateActions
  rw [validateActionsFrom]
  rfl

theorem validateStep {key : SwFlowKey} {acts : List UInt8} {p rem : Nat}
    (ok : validateActionsFrom key acts p rem = actValidationOk) (live : 0 < rem) :
    8 ≤ actionLen acts p ∧ actionLen acts p % 8 = 0 ∧ actionLen acts p ≤ rem ∧
      validateActionsFrom key acts (p + actionLen acts p) (rem - actionLen acts p) = actValidationOk := by
  rw [validateActionsFrom] at ok
  dsimp only at ok
  split at ok
  · split at ok
    · simp [ofpbacBadLen,actValidationOk] at ok
    · rename_i fits
      split at ok
      · rename_i one
        exact ⟨validateOneLen one,by omega,by omega,ok⟩
      · contradiction
  · split at ok
    · simp [ofpbacBadLen,actValidationOk] at ok
    · rename_i short
      simp [actionHeaderLen] at *
      omega

theorem validateTiles {key : SwFlowKey} {acts : List UInt8} (p rem : Nat)
    (ok : validateActionsFrom key acts p rem = actValidationOk) :
    ∃ offs, Tiles (actionLen acts) p rem offs ∧
      ∀ o ∈ offs, 8 ≤ actionLen acts o ∧ actionLen acts o % 8 = 0 := by
  by_cases live : 0 < rem
  · obtain ⟨long,aligned,fits,rest⟩ := validateStep ok live
    obtain ⟨offs,tiles,sizes⟩ := validateTiles (p + actionLen acts p) (rem - actionLen acts p) rest
    refine ⟨p :: offs,.next (by omega) fits tiles,?_⟩
    intro o mem
    rcases List.mem_cons.mp mem with rfl | inner
    · exact ⟨long,aligned⟩
    · exact sizes o inner
  · obtain rfl : rem = 0 := by omega
    exact ⟨[],.done p,by simp⟩
termination_by rem
decreasing_by have := (validateStep ok live).1; omega

theorem validateOneOutput (key : SwFlowKey) (pre rest : List UInt8) {port : UInt16} (maxLen : UInt16)
    (none : port ≠ ofppNone) (inPort : (wild key.wildcards ofpfwInPort || port != key.flow.inPort) = true) :
    validateOne key (pre ++ ofpActionOutput port maxLen ++ rest) pre.length 8 = actValidationOk := by
  obtain ⟨type,-,out,-⟩ := readOfpActionOutput pre rest port maxLen
  have known : ofpatOutput < ofActionsSize := by decide
  have sizes : actionSizes ofpatOutput = (8,8) := by decide
  have accepted : ¬(port = ofppNone ∨ (!wild key.wildcards ofpfwInPort && port == key.flow.inPort) = true) := by
    revert inPort
    cases wild key.wildcards ofpfwInPort <;> simp [none]
  simp only [validateOne,validateOfpat,validateOutput,type,out,known,sizes,accepted,if_true,if_false]
  simp

theorem validateOutputsFrom (key : SwFlowKey) {port : UInt16} (none : port ≠ ofppNone)
    (inPort : (wild key.wildcards ofpfwInPort || port != key.flow.inPort) = true) :
    ∀ (k : Nat) (pre : List UInt8),
      validateActionsFrom key (pre ++ (List.replicate k (ofpActionOutput port 0)).flatten) pre.length (8 * k) =
        actValidationOk
  | 0, pre => by
    rw [validateActionsFrom]
    simp [actionHeaderLen]
  | k + 1, pre => by
    have split : pre ++ (List.replicate (k + 1) (ofpActionOutput port 0)).flatten =
        pre ++ ofpActionOutput port 0 ++ (List.replicate k (ofpActionOutput port 0)).flatten := by
      simp [List.replicate_succ]
    obtain ⟨-,len,-,-⟩ := readOfpActionOutput pre (List.replicate k (ofpActionOutput port 0)).flatten port 0
    have one := validateOneOutput key pre (List.replicate k (ofpActionOutput port 0)).flatten 0 none inPort
    have rest := validateOutputsFrom key none inPort k (pre ++ ofpActionOutput port 0)
    have fits : ¬(8 * (k + 1) < 8 ∨ 8 % 8 ≠ 0) := by omega
    have header : 8 ≤ 8 * (k + 1) := by omega
    have after : (pre ++ ofpActionOutput port 0).length = pre.length + 8 := by simp
    have left : 8 * (k + 1) - 8 = 8 * k := by omega
    rw [split,validateActionsFrom]
    simp only [len,actionHeaderLen,fits,one,header,dite_false,dite_true,if_true,left,← after]
    exact rest

theorem validateSingleOutput (key : SwFlowKey) (port maxLen : UInt16) :
    validateActions key (ofpActionOutput port maxLen) 8 = validateOutput key (ofpActionOutput port maxLen) 0 := by
  obtain ⟨type,len,-,-⟩ := readOfpActionOutput [] [] port maxLen
  simp only [List.nil_append,List.append_nil,List.length_nil] at type len
  have known : ofpatOutput < ofActionsSize := by decide
  have sizes : actionSizes ofpatOutput = (8,8) := by decide
  have fits : ¬(8 < 8 ∨ 8 % 8 ≠ 0) := by decide
  have done : validateActionsFrom key (ofpActionOutput port maxLen) 8 0 = actValidationOk := by
    rw [validateActionsFrom]
    rfl
  unfold validateActions
  rw [validateActionsFrom]
  simp only [actionHeaderLen,le_refl,if_true,len,fits,dite_false,Nat.zero_add,Nat.sub_self,done]
  simp only [validateOne,validateOfpat,type,known,sizes,if_true,lt_self_iff_false,or_self,if_false]
  split
  · rename_i accepted
    exact accepted.symm
  · rfl

theorem validateOutputOfAction (key : SwFlowKey) (port maxLen : UInt16) :
    validateOutput key (ofpActionOutput port maxLen) 0 =
      if port = ofppNone ∨ (!wild key.wildcards ofpfwInPort && port == key.flow.inPort) = true then ofpbacBadOutPort
      else actValidationOk := by
  obtain ⟨-,-,out,-⟩ := readOfpActionOutput [] [] port maxLen
  simp only [List.nil_append,List.append_nil,List.length_nil] at out
  simp only [validateOutput,out]

end OpenFlow.Actions
