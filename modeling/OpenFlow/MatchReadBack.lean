import Mathlib
import OpenFlow.MatchRoundTrip
import OpenFlow.MatchMeaning

/-! What str_to_flow builds from the line ofp_match_to_string prints. -/
namespace OpenFlow.MatchText
open CText Wildcards Bits

section Frames
variable {p : Parsed} {b r : UInt32} {s : OfpMatch → OfpMatch} {i : Bool} {v : Int}

theorem readWildMatch : (p.readWild b s i v).ofpMatch = if i then p.ofpMatch else s p.ofpMatch := by
  unfold Parsed.readWild
  cases i
  · simp only [Bool.false_eq_true,false_and,if_false]
    rfl
  · simp only [true_and,if_true]
    split <;> rfl

theorem readWildApart (apart : b &&& r = 0) : (p.readWild b s i v).wildcards &&& r = p.wildcards &&& r := by
  unfold Parsed.readWild Parsed.readExact
  split_ifs
  · rfl
  · exact orApart apart
  · exact andNotApart apart

theorem readWildOwn : (p.readWild b s i v).wildcards &&& b = if i then (if v < 2 then p.wildcards &&& b else b) else 0 := by
  unfold Parsed.readWild Parsed.readExact
  cases i <;> by_cases few : v < 2 <;> simp only [few,and_true,and_false,if_true,if_false,Bool.false_eq_true] <;>
    first | rfl | exact orSelfAnd | exact andNotSelfAnd

variable {mask shift w : UInt32}

theorem readNetmaskMatch : (p.readNetmask mask shift s ((w &&& mask) >>> shift) v).ofpMatch =
    if (w &&& mask) >>> shift < 32 then s p.ofpMatch else p.ofpMatch := by
  unfold Parsed.readNetmask
  by_cases small : (w &&& mask) >>> shift < 32
  · have printed : ¬(32 ≤ (w &&& mask) >>> shift ∧ v < 2) := fun omitted => by
      have := UInt32.lt_iff_toNat_lt.1 small
      have := UInt32.le_iff_toNat_le.1 omitted.1
      omega
    simp only [printed,small,if_true,if_false]
  · simp only [small,if_false]
    split <;> rfl

theorem readNetmaskApart (aligned : mask >>> shift <<< shift = mask) (apart : mask &&& r = 0) :
    (p.readNetmask mask shift s ((w &&& mask) >>> shift) v).wildcards &&& r = p.wildcards &&& r := by
  unfold Parsed.readNetmask
  split_ifs
  · rfl
  · rw [shiftBack aligned,andOrDistrib,andNotApart apart,UInt32.and_assoc,apart,UInt32.and_zero,UInt32.or_zero]
  · exact orApart apart

theorem readNetmaskOwn (aligned : mask >>> shift <<< shift = mask) :
    (p.readNetmask mask shift s ((w &&& mask) >>> shift) v).wildcards &&& mask =
      if (w &&& mask) >>> shift < 32 then w &&& mask else if v < 2 then p.wildcards &&& mask else mask := by
  unfold Parsed.readNetmask
  by_cases small : (w &&& mask) >>> shift < 32
  · have printed : ¬(32 ≤ (w &&& mask) >>> shift ∧ v < 2) := fun omitted => by
      have := UInt32.lt_iff_toNat_lt.1 small
      have := UInt32.le_iff_toNat_le.1 omitted.1
      omega
    simp only [printed,small,if_true,if_false]
    rw [shiftBack aligned,andOrDistrib,andNotSelfAnd,UInt32.zero_or,UInt32.and_assoc,UInt32.and_self]
  · have large : 32 ≤ (w &&& mask) >>> shift := by
      have := UInt32.lt_iff_toNat_lt.not.1 small
      exact UInt32.le_iff_toNat_le.2 (by simp at this ⊢; omega)
    by_cases few : v < 2
    · simp only [large,few,and_self,if_true,small,if_false]
    · simp only [few,and_false,if_false,small]
      exact orSelfAnd

theorem readUnlessApart {c : Prop} [Decidable c] (apart : b &&& r = 0) :
    (if c then p else p.readWild b s i v).wildcards &&& r = p.wildcards &&& r := by
  split
  · rfl
  · exact readWildApart apart

theorem readUnlessMatch {c : Prop} [Decidable c] :
    (if c then p else p.readWild b s i v).ofpMatch = if c ∨ i = true then p.ofpMatch else s p.ofpMatch := by
  by_cases skip : c
  · simp [skip]
  · simp only [skip,if_false,false_or,readWildMatch]

variable {om : OfpMatch}

theorem readKeywordMatch : (p.readKeyword om).ofpMatch =
    { p.ofpMatch with dlType := if (protocolKeyword om).2.1 then om.dlType else p.ofpMatch.dlType,
                      nwProto := if (protocolKeyword om).2.2 then om.nwProto else p.ofpMatch.nwProto } := by
  unfold Parsed.readKeyword
  dsimp only
  split_ifs <;> rfl

theorem readKeywordApart (apart : (ofpfwDlType ||| ofpfwNwProto) &&& r = 0) :
    (p.readKeyword om).wildcards &&& r = p.wildcards &&& r := by
  rw [andOrDistrib,orEqZero] at apart
  unfold Parsed.readKeyword Parsed.readExact
  dsimp only
  split_ifs <;> simp only [andNotApart apart.1,andNotApart apart.2]

theorem readKeywordDlType : (p.readKeyword om).wildcards &&& ofpfwDlType =
    if (protocolKeyword om).2.1 then 0 else p.wildcards &&& ofpfwDlType := by
  unfold Parsed.readKeyword Parsed.readExact
  dsimp only
  split_ifs <;> simp only [andNotSelfAnd,andNotApart (by decide : ofpfwNwProto &&& ofpfwDlType = 0)]

theorem readKeywordNwProto : (p.readKeyword om).wildcards &&& ofpfwNwProto =
    if (protocolKeyword om).2.2 then 0 else p.wildcards &&& ofpfwNwProto := by
  unfold Parsed.readKeyword Parsed.readExact
  dsimp only
  split_ifs <;> simp only [andNotSelfAnd,andNotApart (by decide : ofpfwDlType &&& ofpfwNwProto = 0)]

theorem initialRegion (inside : ofpfwAll &&& r = r) : Parsed.initial.wildcards &&& r = r := inside

end Frames

section Netmasks
variable {w mask shift : UInt32} (layout : 63 <<< shift = mask)
include layout

theorem netmaskSame {r : UInt32} (full : mask >>> shift = 63)
    (region : r &&& mask = if (w &&& mask) >>> shift < 32 then w &&& mask else mask) :
    makeNwMask (r >>> shift) = makeNwMask (w >>> shift) := by
  have countR : r >>> shift &&& 63 = (r &&& mask) >>> shift := by rw [shiftRightAnd,layout]
  have countW : w >>> shift &&& 63 = (w &&& mask) >>> shift := by rw [shiftRightAnd,layout]
  by_cases small : (w &&& mask) >>> shift < 32
  · rw [if_pos small] at region
    apply makeNwMaskLow
    rw [countR,countW,region]
  · rw [if_neg small] at region
    have wideR : 32 ≤ r >>> shift &&& 63 := by
      rw [countR,region,full]
      decide
    rw [makeNwMaskWide wideR,makeNwMaskWide (by rw [countW]; exact UInt32.not_lt.1 small)]

theorem netmaskValue {a a' : UInt32} (same : (w &&& mask) >>> shift < 32 → a' = a) :
    a' &&& makeNwMask (w >>> shift) = a &&& makeNwMask (w >>> shift) := by
  by_cases small : (w &&& mask) >>> shift < 32
  · rw [same small]
  · have none : makeNwMask (w >>> shift) = 0 :=
      makeNwMaskWide (by rw [shiftRightAnd,layout]; exact UInt32.not_lt.1 small)
    rw [none,UInt32.and_zero,UInt32.and_zero]

end Netmasks

theorem sameFieldRead {α : Type} {w b : UInt32} {i : Bool} {x y : α} (region : w &&& b = if i then b else 0)
    (nonzero : b ≠ 0) (value : i = false → y = x) : SameField i (wild w b) x y := by
  cases i
  · simp only [Bool.false_eq_true,if_false] at region
    exact ⟨by simp [wild,region],.inr (value rfl)⟩
  · simp only [if_true] at region
    exact ⟨by simp [wild,region,nonzero],.inl rfl⟩

theorem keywordDlType {om : OfpMatch} (skip : (protocolKeyword om).2.1 = true) :
    wild om.wildcards ofpfwDlType = false := by
  unfold protocolKeyword at skip
  split_ifs at skip
  all_goals simp_all [wild]

theorem keywordNwProto {om : OfpMatch} (skip : (protocolKeyword om).2.2 = true) :
    wild om.wildcards ofpfwNwProto = false := by
  unfold protocolKeyword at skip
  split_ifs at skip
  all_goals simp_all [wild]

section Printed
variable (om : OfpMatch) (verbosity : Int)

theorem readPrintedFlags :
    let w := (readPrinted om verbosity Parsed.initial).wildcards
    w &&& ofpfwInPort = (if wild om.wildcards ofpfwInPort then ofpfwInPort else 0) ∧
    w &&& ofpfwDlVlan = (if wild om.wildcards ofpfwDlVlan then ofpfwDlVlan else 0) ∧
    w &&& ofpfwDlVlanPcp = (if wild om.wildcards ofpfwDlVlanPcp then ofpfwDlVlanPcp else 0) ∧
    w &&& ofpfwDlSrc = (if wild om.wildcards ofpfwDlSrc then ofpfwDlSrc else 0) ∧
    w &&& ofpfwDlDst = (if wild om.wildcards ofpfwDlDst then ofpfwDlDst else 0) ∧
    w &&& ofpfwNwTos = (if wild om.wildcards ofpfwNwTos then ofpfwNwTos else 0) ∧
    w &&& ofpfwTpSrc = (if wild om.wildcards ofpfwTpSrc then ofpfwTpSrc else 0) ∧
    w &&& ofpfwTpDst = (if wild om.wildcards ofpfwTpDst then ofpfwTpDst else 0) := by
  intro w
  refine ⟨?_,?_,?_,?_,?_,?_,?_,?_⟩ <;>
    simp (disch := decide) only [w,readPrinted,readWildApart,readUnlessApart,readNetmaskApart,readKeywordApart,
      readWildOwn,initialRegion,ite_self]

theorem readPrintedValues :
    let m := (readPrinted om verbosity Parsed.initial).ofpMatch
    (wild om.wildcards ofpfwInPort = false → m.inPort = om.inPort) ∧
    (wild om.wildcards ofpfwDlVlan = false → m.dlVlan = om.dlVlan) ∧
    (wild om.wildcards ofpfwDlVlanPcp = false → m.dlVlanPcp = om.dlVlanPcp) ∧
    (wild om.wildcards ofpfwDlSrc = false → m.dlSrc = om.dlSrc) ∧
    (wild om.wildcards ofpfwDlDst = false → m.dlDst = om.dlDst) ∧
    (wild om.wildcards ofpfwNwTos = false → m.nwTos = om.nwTos) ∧
    (wild om.wildcards ofpfwTpSrc = false → m.tpSrc = om.tpSrc) ∧
    (wild om.wildcards ofpfwTpDst = false → m.tpDst = om.tpDst) := by
  intro m
  refine ⟨fun clear => ?_,fun clear => ?_,fun clear => ?_,fun clear => ?_,fun clear => ?_,fun clear => ?_,
    fun clear => ?_,fun clear => ?_⟩ <;>
    simp only [m,readPrinted,readWildMatch,readUnlessMatch,readNetmaskMatch,readKeywordMatch,clear,
      apply_ite OfpMatch.inPort,apply_ite OfpMatch.dlVlan,apply_ite OfpMatch.dlVlanPcp,apply_ite OfpMatch.dlSrc,
      apply_ite OfpMatch.dlDst,apply_ite OfpMatch.nwTos,apply_ite OfpMatch.tpSrc,apply_ite OfpMatch.tpDst,ite_self,
      Bool.false_eq_true,if_false]

theorem readPrintedDlType :
    let r := readPrinted om verbosity Parsed.initial
    r.wildcards &&& ofpfwDlType = (if wild om.wildcards ofpfwDlType then ofpfwDlType else 0) ∧
    (wild om.wildcards ofpfwDlType = false → r.ofpMatch.dlType = om.dlType) := by
  intro r
  by_cases skip : (protocolKeyword om).2.1 = true
  · have exact := keywordDlType skip
    constructor
    · simp (disch := decide) only [r,readPrinted,readWildApart,readUnlessApart,readNetmaskApart,skip,if_true,
        readKeywordDlType,exact,Bool.false_eq_true,if_false]
    · intro _
      simp only [r,readPrinted,readWildMatch,readUnlessMatch,readNetmaskMatch,readKeywordMatch,skip,
        if_true,apply_ite OfpMatch.dlType,ite_self]
  · constructor
    · simp (disch := decide) only [r,readPrinted,readWildApart,readUnlessApart,readNetmaskApart,skip,
        Bool.false_eq_true,if_false,readWildOwn,readKeywordDlType,initialRegion,ite_self]
    · intro clear
      simp only [r,readPrinted,readWildMatch,readUnlessMatch,readNetmaskMatch,readKeywordMatch,skip,clear,
        Bool.false_eq_true,if_false,apply_ite OfpMatch.dlType,ite_self]

theorem readPrintedNwProto :
    let r := readPrinted om verbosity Parsed.initial
    r.wildcards &&& ofpfwNwProto = (if wild om.wildcards ofpfwNwProto then ofpfwNwProto else 0) ∧
    (wild om.wildcards ofpfwNwProto = false → r.ofpMatch.nwProto = om.nwProto) := by
  intro r
  by_cases skip : (protocolKeyword om).2.2 = true
  · have exact := keywordNwProto skip
    constructor
    · simp (disch := decide) only [r,readPrinted,readWildApart,readUnlessApart,readNetmaskApart,skip,if_true,
        readKeywordNwProto,exact,Bool.false_eq_true,if_false]
    · intro _
      simp only [r,readPrinted,readWildMatch,readUnlessMatch,readNetmaskMatch,readKeywordMatch,skip,
        if_true,apply_ite OfpMatch.nwProto,ite_self]
  · constructor
    · simp (disch := decide) only [r,readPrinted,readWildApart,readUnlessApart,readNetmaskApart,skip,
        Bool.false_eq_true,if_false,readWildOwn,readKeywordNwProto,initialRegion,ite_self]
    · intro clear
      simp only [r,readPrinted,readWildMatch,readUnlessMatch,readNetmaskMatch,readKeywordMatch,skip,clear,
        Bool.false_eq_true,if_false,apply_ite OfpMatch.nwProto,ite_self]

theorem readPrintedNetmasks :
    let r := readPrinted om verbosity Parsed.initial
    let src := (om.wildcards &&& ofpfwNwSrcMask) >>> ofpfwNwSrcShift
    let dst := (om.wildcards &&& ofpfwNwDstMask) >>> ofpfwNwDstShift
    r.wildcards &&& ofpfwNwSrcMask = (if src < 32 then om.wildcards &&& ofpfwNwSrcMask else ofpfwNwSrcMask) ∧
    r.wildcards &&& ofpfwNwDstMask = (if dst < 32 then om.wildcards &&& ofpfwNwDstMask else ofpfwNwDstMask) ∧
    (src < 32 → r.ofpMatch.nwSrc = om.nwSrc) ∧ (dst < 32 → r.ofpMatch.nwDst = om.nwDst) := by
  intro r src dst
  refine ⟨?_,?_,fun small => ?_,fun small => ?_⟩
  · simp (disch := decide) only [r,src,readPrinted,readWildApart,readUnlessApart,readNetmaskApart,readNetmaskOwn,
      readKeywordApart,initialRegion,ite_self]
  · simp (disch := decide) only [r,dst,readPrinted,readWildApart,readUnlessApart,readNetmaskApart,readNetmaskOwn,
      readKeywordApart,initialRegion,ite_self]
  · simp only [r,readPrinted,readWildMatch,readUnlessMatch,readNetmaskMatch,readKeywordMatch,
      apply_ite OfpMatch.nwSrc,ite_self]
    exact if_pos small
  · simp only [r,readPrinted,readWildMatch,readUnlessMatch,readNetmaskMatch,readKeywordMatch,
      apply_ite OfpMatch.nwDst,ite_self]
    exact if_pos small

theorem readPrintedAgree :
    Agree om { (readPrinted om verbosity Parsed.initial).ofpMatch with
      wildcards := (readPrinted om verbosity Parsed.initial).wildcards } := by
  obtain ⟨inPort,dlVlan,dlVlanPcp,dlSrc,dlDst,nwTos,tpSrc,tpDst⟩ := readPrintedFlags om verbosity
  obtain ⟨inPort',dlVlan',dlVlanPcp',dlSrc',dlDst',nwTos',tpSrc',tpDst'⟩ := readPrintedValues om verbosity
  obtain ⟨dlType,dlType'⟩ := readPrintedDlType om verbosity
  obtain ⟨nwProto,nwProto'⟩ := readPrintedNwProto om verbosity
  obtain ⟨srcRegion,dstRegion,nwSrc,nwDst⟩ := readPrintedNetmasks om verbosity
  exact ⟨sameFieldRead inPort (by decide) inPort',sameFieldRead dlVlan (by decide) dlVlan',
    sameFieldRead dlVlanPcp (by decide) dlVlanPcp',sameFieldRead dlSrc (by decide) dlSrc',
    sameFieldRead dlDst (by decide) dlDst',sameFieldRead dlType (by decide) dlType',
    sameFieldRead nwTos (by decide) nwTos',sameFieldRead nwProto (by decide) nwProto',
    sameFieldRead tpSrc (by decide) tpSrc',sameFieldRead tpDst (by decide) tpDst',
    netmaskSame (by decide) (by decide) srcRegion,netmaskSame (by decide) (by decide) dstRegion,
    netmaskValue (by decide) nwSrc,netmaskValue (by decide) nwDst⟩

end Printed

/- str_to_flow reads the text ofp_match_to_string prints, at any verbosity, back into a match that matches the
same packets as the one printed. -/
theorem ofpMatchTextMeaning (hosts : List Char → Option UInt32) (args : FlowArgs) (m : OfpMatch) (verbosity : Int) :
    ∃ m' settings, strToFlow hosts args (ofpMatchToString m verbosity) = some (m',settings) ∧
      ∀ k : SwFlowKey, flowMatches1wild k (flowExtractMatch m') = flowMatches1wild k (flowExtractMatch m) := by
  let r := readPrinted m verbosity Parsed.initial
  have read : strToFlowLoop hosts args (ofpMatchToString m verbosity) Parsed.initial = some r := by
    have line := loopPrinted hosts args m verbosity [] Parsed.initial
    rwa [List.append_nil,loopEnd] at line
  refine ⟨{ r.ofpMatch with wildcards := r.wildcards },r.settings,?_,agreeMatches (readPrintedAgree m verbosity)⟩
  simp only [strToFlow,read,Option.map_some]

end OpenFlow.MatchText
