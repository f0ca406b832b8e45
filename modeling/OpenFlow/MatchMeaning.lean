import Mathlib
import OpenFlow.Flow
import OpenFlow.Lib.Wildcards

/-! When two wire matches mean the same. -/
namespace OpenFlow
open Wildcards

section Flags
variable {w c b : UInt32}

theorem wildOrApart (apart : c &&& b = 0) : wild (w ||| c) b = wild w b := by
  rw [wildOr]
  simp [wild,apart]

theorem wildAndNotWithin (within : c &&& b = b) : wild (w &&& ~~~c) b = false := by
  have cleared : w &&& ~~~c &&& b = 0 := by
    apply UInt32.toBitVec_inj.1
    ext i hi
    have bit := congrArg (fun v : UInt32 => v.toBitVec[i]) within
    simp only [UInt32.toBitVec_and,BitVec.getElem_and] at bit
    simp only [UInt32.toBitVec_and,UInt32.toBitVec_not,BitVec.getElem_and,BitVec.getElem_not,
      UInt32.toBitVec_zero,BitVec.getElem_zero]
    cases hb : b.toBitVec[i] <;> simp_all
  simp [wild,cleared]

theorem wildOrWithin (within : c &&& b = b) (set : b ≠ 0) : wild (w ||| c) b = true := by
  rw [wildOr]
  simp [wild,within,set]

theorem wildWithin (inside : c &&& b = b) : wild (w &&& c) b = wild w b := by
  simp only [wild,UInt32.and_assoc,inside]

end Flags

section Masks
variable {w c s : UInt32}

theorem makeNwMaskLow {x y : UInt32} (same : x &&& 63 = y &&& 63) : makeNwMask x = makeNwMask y := by
  unfold makeNwMask
  simp only [show ((1 : UInt32) <<< 6) - 1 = 63 by decide,same]

theorem makeNwMaskWithin {a : UInt32} (inside : a >>> s &&& 63 = 63) :
    makeNwMask ((w &&& a) >>> s) = makeNwMask (w >>> s) := by
  apply makeNwMaskLow
  rw [UInt32.shiftRight_and,UInt32.and_assoc,inside]

theorem makeNwMaskCovered (full : c >>> s &&& 63 = 63) : makeNwMask ((w ||| c) >>> s) = 0 := by
  have count : (w ||| c) >>> s &&& 63 = 63 &&& 63 := by
    apply UInt32.toBitVec_inj.1
    ext i hi
    have bit := congrArg (fun v : UInt32 => v.toBitVec[i]) full
    simp only [UInt32.toBitVec_and,UInt32.toBitVec_or,UInt32.toBitVec_shiftRight,BitVec.getElem_and] at bit ⊢
    simp at bit ⊢
    grind
  rw [makeNwMaskLow count]
  decide

theorem makeNwMaskWide {x : UInt32} (wide : 32 ≤ x &&& 63) : makeNwMask x = 0 := by
  unfold makeNwMask
  have large : ¬(x &&& 63 < 32) := by
    have := UInt32.le_iff_toNat_le.1 wide
    rw [UInt32.lt_iff_toNat_lt]
    simp only [UInt32.toNat_ofNat] at this ⊢
    omega
  simp only [show ((1 : UInt32) <<< 6) - 1 = 63 by decide,large,if_false]

theorem makeNwMaskCleared (clear : ~~~c >>> s &&& 63 = 0) : makeNwMask ((w &&& ~~~c) >>> s) = ~~~0 := by
  have count : (w &&& ~~~c) >>> s &&& 63 = 0 &&& 63 := by
    rw [UInt32.shiftRight_and,UInt32.and_assoc,clear,UInt32.and_zero,UInt32.zero_and]
  rw [makeNwMaskLow count,makeNwMaskZero]

end Masks

/- Two keys that match the same packets: every field is compared by both or by neither and, where compared,
holds the same value; the address masks are the same, and so are the addresses under them. -/
structure SameKey (x y : SwFlowKey) : Prop where
  inPort : SameField (wild x.wildcards ofpfwInPort) (wild y.wildcards ofpfwInPort) x.flow.inPort y.flow.inPort
  dlVlan : SameField (wild x.wildcards ofpfwDlVlan) (wild y.wildcards ofpfwDlVlan) x.flow.dlVlan y.flow.dlVlan
  dlVlanPcp : SameField (wild x.wildcards ofpfwDlVlanPcp) (wild y.wildcards ofpfwDlVlanPcp) x.flow.dlVlanPcp
    y.flow.dlVlanPcp
  dlSrc : SameField (wild x.wildcards ofpfwDlSrc) (wild y.wildcards ofpfwDlSrc) x.flow.dlSrc y.flow.dlSrc
  dlDst : SameField (wild x.wildcards ofpfwDlDst) (wild y.wildcards ofpfwDlDst) x.flow.dlDst y.flow.dlDst
  dlType : SameField (wild x.wildcards ofpfwDlType) (wild y.wildcards ofpfwDlType) x.flow.dlType y.flow.dlType
  nwTos : SameField (wild x.wildcards ofpfwNwTos) (wild y.wildcards ofpfwNwTos) x.flow.nwTos y.flow.nwTos
  nwProto : SameField (wild x.wildcards ofpfwNwProto) (wild y.wildcards ofpfwNwProto) x.flow.nwProto y.flow.nwProto
  tpSrc : SameField (wild x.wildcards ofpfwTpSrc) (wild y.wildcards ofpfwTpSrc) x.flow.tpSrc y.flow.tpSrc
  tpDst : SameField (wild x.wildcards ofpfwTpDst) (wild y.wildcards ofpfwTpDst) x.flow.tpDst y.flow.tpDst
  srcMask : y.nwSrcMask = x.nwSrcMask
  dstMask : y.nwDstMask = x.nwDstMask
  nwSrc : y.flow.nwSrc &&& x.nwSrcMask = x.flow.nwSrc &&& x.nwSrcMask
  nwDst : y.flow.nwDst &&& x.nwDstMask = x.flow.nwDst &&& x.nwDstMask

theorem SameKey.matches {x y : SwFlowKey} (same : SameKey x y) (k : SwFlowKey) :
    flowMatches1wild k y = flowMatches1wild k x := by
  simp only [flowMatches1wild,flowFieldsMatch,same.inPort.test,same.dlVlan.test,same.dlVlanPcp.test,
    same.dlSrc.test,same.dlDst.test,same.dlType.test,same.nwTos.test,same.nwProto.test,same.tpSrc.test,
    same.tpDst.test,same.srcMask,same.dstMask,maskedSame same.nwSrc,maskedSame same.nwDst]

/- Two wire matches that agree on what flow_extract_match reads of them: the same flags, the same value in
every field they do not wildcard, the same number of wildcarded address bits, and the same addresses under the
masks. -/
structure Agree (m m' : OfpMatch) : Prop where
  inPort : SameField (wild m.wildcards ofpfwInPort) (wild m'.wildcards ofpfwInPort) m.inPort m'.inPort
  dlVlan : SameField (wild m.wildcards ofpfwDlVlan) (wild m'.wildcards ofpfwDlVlan) m.dlVlan m'.dlVlan
  dlVlanPcp : SameField (wild m.wildcards ofpfwDlVlanPcp) (wild m'.wildcards ofpfwDlVlanPcp) m.dlVlanPcp m'.dlVlanPcp
  dlSrc : SameField (wild m.wildcards ofpfwDlSrc) (wild m'.wildcards ofpfwDlSrc) m.dlSrc m'.dlSrc
  dlDst : SameField (wild m.wildcards ofpfwDlDst) (wild m'.wildcards ofpfwDlDst) m.dlDst m'.dlDst
  dlType : SameField (wild m.wildcards ofpfwDlType) (wild m'.wildcards ofpfwDlType) m.dlType m'.dlType
  nwTos : SameField (wild m.wildcards ofpfwNwTos) (wild m'.wildcards ofpfwNwTos) m.nwTos m'.nwTos
  nwProto : SameField (wild m.wildcards ofpfwNwProto) (wild m'.wildcards ofpfwNwProto) m.nwProto m'.nwProto
  tpSrc : SameField (wild m.wildcards ofpfwTpSrc) (wild m'.wildcards ofpfwTpSrc) m.tpSrc m'.tpSrc
  tpDst : SameField (wild m.wildcards ofpfwTpDst) (wild m'.wildcards ofpfwTpDst) m.tpDst m'.tpDst
  srcMask : makeNwMask (m'.wildcards >>> ofpfwNwSrcShift) = makeNwMask (m.wildcards >>> ofpfwNwSrcShift)
  dstMask : makeNwMask (m'.wildcards >>> ofpfwNwDstShift) = makeNwMask (m.wildcards >>> ofpfwNwDstShift)
  nwSrc : m'.nwSrc &&& makeNwMask (m.wildcards >>> ofpfwNwSrcShift) =
    m.nwSrc &&& makeNwMask (m.wildcards >>> ofpfwNwSrcShift)
  nwDst : m'.nwDst &&& makeNwMask (m.wildcards >>> ofpfwNwDstShift) =
    m.nwDst &&& makeNwMask (m.wildcards >>> ofpfwNwDstShift)

theorem agreeExtract {m m' : OfpMatch} (agree : Agree m m') : SameKey (flowExtractMatch m) (flowExtractMatch m') := by
  obtain ⟨inPort,dlVlan,dlVlanPcp,dlSrc,dlDst,dlType,nwTos,nwProto,tpSrc,tpDst,srcMask,dstMask,nwSrc,nwDst⟩ := agree
  unfold flowExtractMatch extractNetwork
  simp only [wildWithin (by decide : ofpfwAll &&& ofpfwDlType = ofpfwDlType),
    wildWithin (by decide : ofpfwAll &&& ofpfwNwProto = ofpfwNwProto),dlType.1,nwProto.1]
  by_cases dlWild : wild m.wildcards ofpfwDlType
  · -- no network field is compared
    simp only [dlWild,if_true]
    constructor <;> simp (disch := decide) only [wildOrApart,wildOrWithin,wildWithin,Bits.shiftOrLow,
      makeNwMaskCovered] <;> first | assumption | exact .wildBoth
  have dl : m'.dlType = m.dlType := dlType.2.resolve_left (by simpa using dlWild)
  simp only [dlWild,dl,Bool.false_eq_true,if_false]
  by_cases ip : m.dlType = ethTypeIp
  · simp only [show (m.dlType == ethTypeIp) = true by simpa using ip,if_true]
    by_cases protoWild : wild m.wildcards ofpfwNwProto
    · -- IP with any protocol: the transport ports are wildcarded
      simp only [protoWild,if_true]
      constructor <;> simp (disch := decide) only [wildOrApart,wildOrWithin,wildWithin,Bits.shiftOrLow,
        makeNwMaskWithin] <;>
        first | assumption | exact .wildBoth | exact nwTos.map (fun t : UInt8 => t &&& 0xfc) | exact .ofEq dlType.1
    have proto : m'.nwProto = m.nwProto := nwProto.2.resolve_left (by simpa using protoWild)
    simp only [protoWild,proto,Bool.false_eq_true,if_false]
    by_cases transport : (m.nwProto == ipTypeTcp || m.nwProto == ipTypeUdp || m.nwProto == ipTypeIcmp) = true
    · -- TCP, UDP or ICMP: every field as the match has it
      simp only [transport,if_true]
      constructor <;> simp (disch := decide) only [wildWithin,makeNwMaskWithin] <;>
        first | assumption | exact nwTos.map (fun t : UInt8 => t &&& 0xfc) | exact .ofEq dlType.1 |
          exact .ofEq nwProto.1
    · -- another protocol over IP: the ports are cleared and compared
      simp only [transport,Bool.false_eq_true,if_false]
      constructor <;> simp (disch := decide) only [wildAndNotWithin,wildWithin,Bits.shiftAndNotLow,
        makeNwMaskWithin] <;>
        first | assumption | exact .ofEq rfl | exact nwTos.map (fun t : UInt8 => t &&& 0xfc) |
          exact .ofEq dlType.1 | exact .ofEq nwProto.1
  have notIp : (m.dlType == ethTypeIp) = false := by simpa using ip
  simp only [notIp,Bool.false_eq_true,if_false]
  by_cases arp : m.dlType = ethTypeArp
  · -- ARP: the addresses and the opcode, no type of service and no ports
    simp only [show (m.dlType == ethTypeArp) = true by simpa using arp,if_true]
    constructor <;> simp (disch := decide) only [wildAndNotWithin,wildWithin,Bits.shiftAndNotLow,
      makeNwMaskWithin] <;>
      first | assumption | exact .ofEq rfl | exact .ofEq dlType.1 | exact .ofEq nwTos.1
  · -- any other link type: every network field cleared and compared
    simp only [show (m.dlType == ethTypeArp) = false by simpa using arp,Bool.false_eq_true,if_false]
    constructor <;> simp (disch := decide) only [wildAndNotWithin,wildWithin,makeNwMaskCleared] <;>
      first | assumption | exact .ofEq rfl | exact .ofEq dlType.1

theorem agreeMatches {m m' : OfpMatch} (agree : Agree m m') (k : SwFlowKey) :
    flowMatches1wild k (flowExtractMatch m') = flowMatches1wild k (flowExtractMatch m) :=
  (agreeExtract agree).matches k

end OpenFlow
