import Mathlib
import OpenFlow.Lib.Bits

/-! Flow keys of the user-space datapath (lib/flow.h, udatapath/switch-flow.c). -/
namespace OpenFlow

abbrev EthAddr := Vector UInt8 6

/- enum ofp_flow_wildcards (include/openflow/openflow.h) -/
def ofpfwInPort : UInt32 := (1 : UInt32) <<< 0
def ofpfwDlVlan : UInt32 := (1 : UInt32) <<< 1
def ofpfwDlSrc : UInt32 := (1 : UInt32) <<< 2
def ofpfwDlDst : UInt32 := (1 : UInt32) <<< 3
def ofpfwDlType : UInt32 := (1 : UInt32) <<< 4
def ofpfwNwProto : UInt32 := (1 : UInt32) <<< 5
def ofpfwTpSrc : UInt32 := (1 : UInt32) <<< 6
def ofpfwTpDst : UInt32 := (1 : UInt32) <<< 7
def ofpfwNwSrcShift : UInt32 := 8
def ofpfwNwSrcMask : UInt32 := (((1 : UInt32) <<< 6) - 1) <<< 8
def ofpfwNwDstShift : UInt32 := 14
def ofpfwNwDstMask : UInt32 := (((1 : UInt32) <<< 6) - 1) <<< 14
def ofpfwDlVlanPcp : UInt32 := (1 : UInt32) <<< 20
def ofpfwNwTos : UInt32 := (1 : UInt32) <<< 21
def ofpfwAll : UInt32 := ((1 : UInt32) <<< 22) - 1

def ofpVlanNone : UInt16 := 0xffff
def ethTypeIp : UInt16 := 0x0800
def ethTypeArp : UInt16 := 0x0806
def ethTypeVlan : UInt16 := 0x8100
def ipTypeIcmp : UInt8 := 1
def ipTypeTcp : UInt8 := 6
def ipTypeUdp : UInt8 := 17

/- struct flow: 36 bytes, no padding holes besides the explicit `pad`. -/
structure Flow where
  nwSrc : UInt32
  nwDst : UInt32
  inPort : UInt16
  dlVlan : UInt16
  dlType : UInt16
  tpSrc : UInt16
  tpDst : UInt16
  dlSrc : EthAddr
  dlDst : EthAddr
  dlVlanPcp : UInt8
  nwTos : UInt8
  nwProto : UInt8
  pad : Vector UInt8 3
  deriving DecidableEq, Repr

/- memcmp over the whole struct: zero exactly when every byte, hence every field, agrees. -/
def flowCompare (a b : Flow) : Bool := decide (a ≠ b)

@[simp] theorem flowCompareFalse {a b : Flow} : flowCompare a b = false ↔ a = b := by
  simp [flowCompare]

/- struct sw_flow_key -/
structure SwFlowKey where
  flow : Flow
  wildcards : UInt32
  nwSrcMask : UInt32
  nwDstMask : UInt32
  deriving DecidableEq, Repr

def wild (w bit : UInt32) : Bool := w &&& bit != 0

def flowFieldsMatch (a b : Flow) (w srcMask dstMask : UInt32) : Bool :=
  (wild w ofpfwInPort || a.inPort == b.inPort) &&
  (wild w ofpfwDlVlan || a.dlVlan == b.dlVlan) &&
  (wild w ofpfwDlVlanPcp || a.dlVlanPcp == b.dlVlanPcp) &&
  (wild w ofpfwDlSrc || a.dlSrc == b.dlSrc) &&
  (wild w ofpfwDlDst || a.dlDst == b.dlDst) &&
  (wild w ofpfwDlType || a.dlType == b.dlType) &&
  (wild w ofpfwNwTos || a.nwTos == b.nwTos) &&
  (wild w ofpfwNwProto || a.nwProto == b.nwProto) &&
  ((a.nwSrc ^^^ b.nwSrc) &&& srcMask == 0) &&
  ((a.nwDst ^^^ b.nwDst) &&& dstMask == 0) &&
  (wild w ofpfwTpSrc || a.tpSrc == b.tpSrc) &&
  (wild w ofpfwTpDst || a.tpDst == b.tpDst)

/- `n_wild_bits` low bits of an address are ignored; 32 or more ignore all of it. -/
def makeNwMask (nWildBits : UInt32) : UInt32 :=
  let n := nWildBits &&& (((1 : UInt32) <<< 6) - 1)
  if n < 32 then ~~~(((1 : UInt32) <<< n) - 1) else 0

/- Fields of `a` equal those of `b` modulo the wildcards of `b`. -/
def flowMatches1wild (a b : SwFlowKey) : Bool :=
  flowFieldsMatch a.flow b.flow b.wildcards b.nwSrcMask b.nwDstMask

/- Fields of `a` equal those of `b` modulo the wildcards of either. -/
def flowMatches2wild (a b : SwFlowKey) : Bool :=
  flowFieldsMatch a.flow b.flow (a.wildcards ||| b.wildcards) (a.nwSrcMask &&& b.nwSrcMask)
    (a.nwDstMask &&& b.nwDstMask)

/- `t` is the table entry, `d` the description; the entry's own wildcards are ignored unless `strict` is set.
-/
def flowMatchesDesc (t d : SwFlowKey) (strict : Bool) : Bool :=
  if strict && d.wildcards != t.wildcards then false else flowMatches1wild t d

def flowMatches2desc (t d : SwFlowKey) (strict : Bool) : Bool :=
  if strict && d.wildcards != t.wildcards then false else flowMatches2wild t d

/- The pad flow_extract_match and flow_extract leave in a key. -/
def zeroPad : Vector UInt8 3 := Vector.replicate 3 0

theorem makeNwMaskZero : makeNwMask 0 = ~~~0 := by decide

theorem flowFieldsMatchExact {a b : Flow} (pad : a.pad = b.pad) :
    flowFieldsMatch a b 0 (~~~0) (~~~0) = true ↔ a = b := by
  constructor
  · intro fields
    simp [flowFieldsMatch,wild] at fields
    cases a
    cases b
    simp_all
  · rintro rfl
    simp [flowFieldsMatch]

/- struct ofp_match; its two pad fields are read by no modelled function. -/
structure OfpMatch where
  wildcards : UInt32
  inPort : UInt16
  dlSrc : EthAddr
  dlDst : EthAddr
  dlVlan : UInt16
  dlVlanPcp : UInt8
  dlType : UInt16
  nwTos : UInt8
  nwProto : UInt8
  nwSrc : UInt32
  nwDst : UInt32
  tpSrc : UInt16
  tpDst : UInt16
  deriving DecidableEq, Repr

def ofpfwTp : UInt32 := ofpfwTpSrc ||| ofpfwTpDst
def ofpfwNw : UInt32 := ofpfwNwTos ||| ofpfwNwProto ||| ofpfwNwSrcMask ||| ofpfwNwDstMask

/- The network and transport fields a match may carry, by the layers its dl_type and nw_proto make meaningful,
and the wildcards adjusted to them. -/
def extractNetwork (m : OfpMatch) (w : UInt32) : UInt8 × UInt8 × UInt32 × UInt32 × UInt16 × UInt16 × UInt32 :=
  if wild w ofpfwDlType then (0,0,0,0,0,0,w ||| ofpfwNw ||| ofpfwTp)
  else if m.dlType == ethTypeIp then
    if wild w ofpfwNwProto then (m.nwTos &&& 0xfc,m.nwProto,m.nwSrc,m.nwDst,0,0,w ||| ofpfwTp)
    else if m.nwProto == ipTypeTcp || m.nwProto == ipTypeUdp || m.nwProto == ipTypeIcmp then
      (m.nwTos &&& 0xfc,m.nwProto,m.nwSrc,m.nwDst,m.tpSrc,m.tpDst,w)
    else (m.nwTos &&& 0xfc,m.nwProto,m.nwSrc,m.nwDst,0,0,w &&& ~~~ofpfwTp)
  else if m.dlType == ethTypeArp then (0,m.nwProto,m.nwSrc,m.nwDst,0,0,w &&& ~~~ofpfwTp)
  else (0,0,0,0,0,0,w &&& ~~~(ofpfwNw ||| ofpfwTp))

def flowExtractMatch (m : OfpMatch) : SwFlowKey :=
  let (nwTos,nwProto,nwSrc,nwDst,tpSrc,tpDst,w) := extractNetwork m (m.wildcards &&& ofpfwAll)
  { flow :=
      { nwSrc,nwDst,inPort := m.inPort,dlVlan := m.dlVlan,dlType := m.dlType,tpSrc,tpDst,
        dlSrc := m.dlSrc,dlDst := m.dlDst,dlVlanPcp := m.dlVlanPcp,nwTos,nwProto,
        pad := zeroPad }
    wildcards := w
    nwSrcMask := makeNwMask (w >>> ofpfwNwSrcShift)
    nwDstMask := makeNwMask (w >>> ofpfwNwDstShift) }

theorem makeNwMaskBit (w : UInt32) {i : Nat} (hi : i < 32) :
    (makeNwMask w).toBitVec[i] = decide ((w &&& 63).toNat ≤ i) := by
  have bits : (w &&& 63).toNat = w.toNat &&& 63 := by simp
  unfold makeNwMask
  simp only [show ((1 : UInt32) <<< 6) - 1 = 63 by decide]
  split
  · rename_i lt
    have lt' : w.toNat &&& 63 < 32 := by
      rw [← bits]
      simpa [UInt32.lt_iff_toNat_lt] using lt
    simp only [UInt32.toBitVec_not,BitVec.getElem_not,UInt32.toBitVec_sub,UInt32.toBitVec_shiftLeft]
    simp [Nat.mod_eq_of_lt lt',Bits.lowBits lt' hi]
    simp only [← decide_not,Nat.not_le]
  · -- 32 or more wild bits: nothing is compared
    rename_i ge
    have ge' : 32 ≤ (w &&& 63).toNat := by simpa [UInt32.lt_iff_toNat_lt] using ge
    simp
    omega

theorem makeNwMaskAnd (x y : UInt32) :
    makeNwMask x &&& makeNwMask y = if (x &&& 63) ≤ (y &&& 63) then makeNwMask y else makeNwMask x := by
  rw [← UInt32.toBitVec_inj]
  ext i hi
  have bit := fun w => makeNwMaskBit w hi
  rw [UInt32.toBitVec_and,BitVec.getElem_and,bit x,bit y]
  split
  · rename_i shorter
    rw [UInt32.le_iff_toNat_le] at shorter
    rw [bit y,Bool.eq_iff_iff]
    simp only [Bool.and_eq_true,decide_eq_true_eq]
    omega
  · rename_i longer
    rw [UInt32.le_iff_toNat_le] at longer
    rw [bit x,Bool.eq_iff_iff]
    simp only [Bool.and_eq_true,decide_eq_true_eq]
    omega

theorem flowExtractMatchMasks (m : OfpMatch) (exact : (flowExtractMatch m).wildcards = 0) :
    (flowExtractMatch m).nwSrcMask = ~~~0 ∧ (flowExtractMatch m).nwDstMask = ~~~0 := by
  simp only [flowExtractMatch] at exact ⊢
  simp [exact,makeNwMaskZero]

theorem flowMatches1wildExact (m : OfpMatch) (exact : (flowExtractMatch m).wildcards = 0) {t : SwFlowKey}
    (pad : t.flow.pad = zeroPad) : flowMatches1wild t (flowExtractMatch m) = true ↔ t.flow = (flowExtractMatch m).flow := by
  have masks := flowExtractMatchMasks m exact
  rw [flowMatches1wild,exact,masks.1,masks.2]
  exact flowFieldsMatchExact pad

section Fill
open Bits

theorem wildOr (w c b : UInt32) : wild (w ||| c) b = (wild w b || wild c b) := by
  rw [Bool.eq_iff_iff]
  simp only [wild,andOrDistrib,Bool.or_eq_true,bne_iff_ne,ne_eq,orEqZero]
  tauto

theorem wildAndNot {w b : UInt32} (clear : wild w b = false) (c : UInt32) : wild (w &&& ~~~c) b = false := by
  simp only [wild,bne_eq_false_iff_eq] at clear ⊢
  rw [andNotAnd,clear,UInt32.zero_and]

/- flow_fill_match (lib/flow.c): the wire match of a flow under `wildcards`. -/
def flowFillMatch (flow : Flow) (wildcards : UInt32) : OfpMatch :=
  { wildcards,inPort := flow.inPort,dlSrc := flow.dlSrc,dlDst := flow.dlDst,dlVlan := flow.dlVlan,
    dlVlanPcp := flow.dlVlanPcp,dlType := flow.dlType,nwTos := flow.nwTos,nwProto := flow.nwProto,
    nwSrc := flow.nwSrc,nwDst := flow.nwDst,tpSrc := flow.tpSrc,tpDst := flow.tpDst }

theorem flowExtractMatchFill (m : OfpMatch) :
    flowExtractMatch (flowFillMatch (flowExtractMatch m).flow (flowExtractMatch m).wildcards) = flowExtractMatch m := by
  have nw : ofpfwNw &&& ofpfwAll = ofpfwNw := by decide
  have tp : ofpfwTp &&& ofpfwAll = ofpfwTp := by decide
  have inAll : m.wildcards &&& ofpfwAll &&& ofpfwAll = m.wildcards &&& ofpfwAll := by
    rw [UInt32.and_assoc,UInt32.and_self]
  unfold flowExtractMatch
  generalize m.wildcards &&& ofpfwAll = w at inAll ⊢
  by_cases dlWild : wild w ofpfwDlType
  · -- the link type stays wildcarded, and with it every network field
    have again : wild (w ||| ofpfwNw ||| ofpfwTp) ofpfwDlType = true := by simp [wildOr,dlWild]
    have within := orWithin (orWithin inAll nw) tp
    have idem : w ||| ofpfwNw ||| ofpfwTp ||| ofpfwNw ||| ofpfwTp = w ||| ofpfwNw ||| ofpfwTp := by
      rw [UInt32.or_assoc (w ||| ofpfwNw ||| ofpfwTp),UInt32.or_assoc w ofpfwNw ofpfwTp,orOrSelf]
    simp [flowFillMatch,extractNetwork,dlWild,again,within,idem]
  · have tpDl : wild ofpfwTp ofpfwDlType = false := by decide
    simp only [Bool.not_eq_true] at dlWild
    by_cases ip : m.dlType = ethTypeIp
    · by_cases protoWild : wild w ofpfwNwProto
      · -- the transport fields are wildcarded, and stay so
        have within := orWithin inAll tp
        simp [flowFillMatch,extractNetwork,dlWild,ip,protoWild,within,wildOr,tpDl,orOrSelf,UInt8.and_assoc]
      · simp only [Bool.not_eq_true] at protoWild
        by_cases transport : (m.nwProto = ipTypeTcp ∨ m.nwProto = ipTypeUdp) ∨ m.nwProto = ipTypeIcmp
        · simp [flowFillMatch,extractNetwork,dlWild,ip,protoWild,transport,inAll,UInt8.and_assoc]
        · -- no transport header: the ports are exact and zero, and stay so
          have within := andNotWithin inAll ofpfwTp
          simp only [not_or] at transport
          simp [flowFillMatch,extractNetwork,dlWild,ip,protoWild,transport,within,wildAndNot dlWild,
            wildAndNot protoWild,andNotAndNot,UInt8.and_assoc]
    · by_cases arp : m.dlType = ethTypeArp
      · have within := andNotWithin inAll ofpfwTp
        have arpIp : ethTypeArp ≠ ethTypeIp := by decide
        simp [flowFillMatch,extractNetwork,dlWild,arp,arpIp,within,wildAndNot dlWild,andNotAndNot]
      · have within := andNotWithin inAll (ofpfwNw ||| ofpfwTp)
        simp [flowFillMatch,extractNetwork,dlWild,ip,arp,within,wildAndNot dlWild,andNotAndNot]

end Fill

end OpenFlow
