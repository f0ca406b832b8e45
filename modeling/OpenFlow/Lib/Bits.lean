import Mathlib

/-! Bit fields of 32-bit words: sets of flag bits combined with `|||`, `&&&` and `~~~`, masks of low bits, and
two fields packed side by side into one word. -/
namespace Bits

section Flags
variable (w c a : UInt32)

theorem andOrDistrib : (w ||| c) &&& a = (w &&& a) ||| (c &&& a) :=
  UInt32.toBitVec_inj.1 BitVec.and_or_distrib_right

theorem orEqZero {x y : UInt32} : x ||| y = 0 ↔ x = 0 ∧ y = 0 := by
  simp [← UInt32.toBitVec_inj,BitVec.or_eq_zero_iff]

theorem andNotAnd : w &&& ~~~c &&& a = w &&& a &&& ~~~c := by
  rw [UInt32.and_assoc,UInt32.and_comm (~~~c) a,← UInt32.and_assoc]

theorem orOrSelf : w ||| c ||| c = w ||| c := by
  rw [UInt32.or_assoc,UInt32.or_self]

theorem andNotAndNot : w &&& ~~~c &&& ~~~c = w &&& ~~~c := by
  rw [UInt32.and_assoc,UInt32.and_self]

theorem orWithin {w c a : UInt32} (inW : w &&& a = w) (inC : c &&& a = c) : (w ||| c) &&& a = w ||| c := by
  rw [andOrDistrib,inW,inC]

theorem andNotWithin {w a : UInt32} (inW : w &&& a = w) (c : UInt32) : w &&& ~~~c &&& a = w &&& ~~~c := by
  rw [andNotAnd,inW]

end Flags

section Within

theorem withinTrans {t x y : UInt32} (tx : x &&& t = t) (xy : y &&& x = x) : y &&& t = t := by
  rw [← tx,← UInt32.and_assoc,xy]

theorem orAbsorb (x z : UInt32) : (x ||| z) &&& x = x := by
  apply UInt32.toBitVec_inj.1
  ext i hi
  simp only [UInt32.toBitVec_and,UInt32.toBitVec_or,BitVec.getElem_and,BitVec.getElem_or]
  cases x.toBitVec[i] <;> simp

theorem allOnesAnd (x : UInt32) : 0xffffffff &&& x = x := by
  apply UInt32.toBitVec_inj.1
  have ones : (0xffffffff : UInt32).toBitVec = BitVec.allOnes 32 := by decide
  rw [UInt32.toBitVec_and,ones,BitVec.allOnes_and]

theorem shiftOne {x : Nat} (hx : x < 32) : ((1 : UInt32) <<< x.toUInt32).toBitVec = BitVec.twoPow 32 x := by
  rw [UInt32.toBitVec_shiftLeft,BitVec.twoPow_eq]
  have reduced : x.toUInt32.toBitVec % 32 = BitVec.ofNat 32 x := by
    apply BitVec.eq_of_toNat_eq
    simp [BitVec.toNat_umod,Nat.toUInt32]
    omega
  have small : x % 4294967296 = x := Nat.mod_eq_of_lt (by omega)
  rw [reduced,BitVec.shiftLeft_eq']
  simp [small]

theorem andBit (a : UInt32) {x : Nat} (hx : x < 32) :
    a &&& ((1 : UInt32) <<< x.toUInt32) = if a.toBitVec.getLsbD x then (1 : UInt32) <<< x.toUInt32 else 0 := by
  apply UInt32.toBitVec_inj.1
  rw [UInt32.toBitVec_and,shiftOne hx,BitVec.and_twoPow]
  split <;> simp [shiftOne hx]

theorem andOrDistribLeft (a w c : UInt32) : a &&& (w ||| c) = (a &&& w) ||| (a &&& c) :=
  UInt32.toBitVec_inj.1 BitVec.and_or_distrib_left

end Within

theorem xorMaskTrans {a b c m : UInt32} (ab : (a ^^^ b) &&& m = 0) (bc : (b ^^^ c) &&& m = 0) :
    (a ^^^ c) &&& m = 0 := by
  rw [← UInt32.toBitVec_inj] at ab bc ⊢
  ext i hi
  have abi := congrArg (fun x : BitVec 32 => x[i]) ab
  have bci := congrArg (fun x : BitVec 32 => x[i]) bc
  simp only [UInt32.toBitVec_and,UInt32.toBitVec_xor,BitVec.getElem_and,BitVec.getElem_xor,UInt32.toBitVec_zero,
    BitVec.getElem_zero] at abi bci ⊢
  revert abi bci
  cases a.toBitVec[i] <;> cases b.toBitVec[i] <;> cases c.toBitVec[i] <;> cases m.toBitVec[i] <;> decide

section Masks

theorem lowBits {k i : Nat} (hk : k < 32) (hi : i < 32) : (1#32 <<< k - 1#32)[i] = decide (i < k) := by
  have pos : 1 ≤ 2 ^ k := Nat.one_le_two_pow
  have lt : 2 ^ k < 2 ^ 32 := Nat.pow_lt_pow_right (by omega) hk
  have val : (1#32 <<< k - 1#32).toNat = 2 ^ k - 1 := by
    have pow : 1 * 2 ^ k % 2 ^ 32 = 2 ^ k := by
      rw [Nat.one_mul]
      exact Nat.mod_eq_of_lt lt
    rw [BitVec.toNat_sub,BitVec.toNat_shiftLeft]
    simp only [BitVec.toNat_ofNat,Nat.shiftLeft_eq]
    rw [Nat.mod_eq_of_lt (by omega : 1 < 2 ^ 32),pow]
    omega
  rw [BitVec.getElem_eq_testBit_toNat,val,Nat.testBit_two_pow_sub_one]

end Masks

section Shifts
variable {w c s : UInt32}

theorem shiftOrLow (low : c >>> s = 0) : (w ||| c) >>> s = w >>> s := by
  rw [UInt32.shiftRight_or,low,UInt32.or_zero]

theorem shiftAndNotLow (low : c >>> s = 0) : (w &&& ~~~c) >>> s = w >>> s := by
  apply UInt32.toBitVec_inj.1
  ext i hi
  have dropped := congrArg (fun x : UInt32 => x.toBitVec[i]) low
  simp at dropped
  simp [dropped]
  exact BitVec.lt_of_getLsbD

end Shifts

section Regions
variable {w c r : UInt32}

theorem orApart (apart : c &&& r = 0) : (w ||| c) &&& r = w &&& r := by
  rw [andOrDistrib,apart,UInt32.or_zero]

theorem andNotApart (apart : c &&& r = 0) : w &&& ~~~c &&& r = w &&& r := by
  apply UInt32.toBitVec_inj.1
  ext i hi
  have bit := congrArg (fun v : UInt32 => v.toBitVec[i]) apart
  simp at bit ⊢
  grind

theorem orSelfAnd : (w ||| c) &&& c = c := by
  rw [UInt32.or_comm,orAbsorb]

theorem andNotSelfAnd : w &&& ~~~c &&& c = 0 := by
  rw [andNotAnd,UInt32.and_assoc,UInt32.and_not_self,UInt32.and_zero]

theorem shiftBack {m s : UInt32} (aligned : m >>> s <<< s = m) : (w &&& m) >>> s <<< s = w &&& m := by
  apply UInt32.toBitVec_inj.1
  ext i hi
  have bit := congrArg (fun v : UInt32 => v.toBitVec[i]) aligned
  simp at bit ⊢
  grind

theorem shiftRightAnd {k s : UInt32} : w >>> s &&& k = (w &&& k <<< s) >>> s := by
  apply UInt32.toBitVec_inj.1
  ext i hi
  simp
  grind

end Regions

section Packing
variable {lo hi s : UInt32}

theorem fieldBitAbove {x : UInt32} {n i : Nat} (fits : x.toNat < 2 ^ n) (hn : n ≤ i) (hi : i < 32) :
    x.toBitVec[i] = false := by
  rw [BitVec.getElem_eq_testBit_toNat]
  exact Nat.testBit_eq_false_of_lt (lt_of_lt_of_le fits (Nat.pow_le_pow_right (by omega) hn))

theorem packLow (hs : s.toNat < 32) (fits : lo.toNat < 2 ^ s.toNat) :
    (lo ||| hi <<< s) &&& ((1 <<< s) - 1) = lo := by
  apply UInt32.toBitVec_inj.1
  ext i hi'
  have mod : s.toNat % 32 = s.toNat := Nat.mod_eq_of_lt hs
  simp [BitVec.shiftLeft_eq',mod,lowBits hs hi']
  by_cases below : i < s.toNat
  · simp [below]
  · simp [below,fieldBitAbove fits (Nat.le_of_not_lt below) hi']

theorem packHigh (hs : s.toNat < 32) (fits : lo.toNat < 2 ^ s.toNat) (fitsHi : hi.toNat < 2 ^ (32 - s.toNat)) :
    (lo ||| hi <<< s) >>> s = hi := by
  apply UInt32.toBitVec_inj.1
  ext i hi'
  have mod : s.toNat % 32 = s.toNat := Nat.mod_eq_of_lt hs
  simp [BitVec.shiftLeft_eq',BitVec.ushiftRight_eq',mod]
  have low : lo.toBitVec.getLsbD (s.toNat + i) = false := by
    rw [← BitVec.testBit_toNat]
    exact Nat.testBit_eq_false_of_lt (lt_of_lt_of_le fits (Nat.pow_le_pow_right (by omega) (by omega)))
  rw [low,Bool.false_or,BitVec.getLsbD_eq_getElem hi']
  by_cases inside : s.toNat + i < 32
  · simp [inside]
  · simp [inside,fieldBitAbove fitsHi (by omega) hi']

theorem packSplit (hs : s.toNat < 32) (x : UInt32) : (x &&& ((1 <<< s) - 1)) ||| (x >>> s) <<< s = x := by
  apply UInt32.toBitVec_inj.1
  ext i hi'
  have mod : s.toNat % 32 = s.toNat := Nat.mod_eq_of_lt hs
  simp [BitVec.shiftLeft_eq',BitVec.ushiftRight_eq',mod,lowBits hs hi']
  by_cases below : i < s.toNat
  · simp [below]
  · have back : s.toNat + (i - s.toNat) = i := by omega
    simp [below,back,BitVec.getLsbD_eq_getElem hi']

end Packing

/-! Smearing the highest set bit of a word down to bit 0: or-ing in its shifts by 1, 2, 4, … sets every bit at
or below the highest set one, so the result is one less than a power of two. -/
section Smear

/- The word after or-ing in its shifts by `2^0, …, 2^(s-1)` in turn. -/
def smear (x : Nat) : Nat → Nat
  | 0 => x
  | s + 1 => smear x s ||| smear x s >>> 2 ^ s

theorem testBitSmear (x : Nat) : ∀ s i, (smear x s).testBit i = true ↔ ∃ j, i ≤ j ∧ j < i + 2 ^ s ∧ x.testBit j = true
  | 0, i => by
    simp only [smear,pow_zero]
    constructor
    · intro set
      exact ⟨i,le_rfl,by omega,set⟩
    · rintro ⟨j,low,high,set⟩
      rwa [show i = j by omega]
  | s + 1, i => by
    rw [smear,Nat.testBit_or,Nat.testBit_shiftRight,Bool.or_eq_true,testBitSmear x s i,
      testBitSmear x s (2 ^ s + i),pow_succ]
    constructor
    · rintro (⟨j,low,high,set⟩ | ⟨j,low,high,set⟩)
      · exact ⟨j,low,by omega,set⟩
      · exact ⟨j,by omega,by omega,set⟩
    · rintro ⟨j,low,high,set⟩
      by_cases first : j < i + 2 ^ s
      · exact .inl ⟨j,low,first,set⟩
      · exact .inr ⟨j,by omega,by omega,set⟩

theorem smearZero : ∀ s, smear 0 s = 0
  | 0 => rfl
  | s + 1 => by rw [smear,smearZero s,Nat.zero_shiftRight,Nat.zero_or]

theorem smearEq {x s : Nat} (nonzero : x ≠ 0) (fits : x < 2 ^ 2 ^ s) : smear x s = 2 ^ (x.log2 + 1) - 1 := by
  apply Nat.eq_of_testBit_eq
  intro i
  rw [Nat.testBit_two_pow_sub_one,Bool.eq_iff_iff,testBitSmear,decide_eq_true_iff]
  have top : x.log2 < 2 ^ s := (Nat.log2_lt nonzero).2 fits
  constructor
  · rintro ⟨j,low,high,set⟩
    have below : j < x.log2 + 1 := by
      by_contra above
      have small : x < 2 ^ j :=
        lt_of_lt_of_le ((Nat.log2_lt nonzero).1 (Nat.lt_succ_self _)) (Nat.pow_le_pow_right (by omega) (by omega))
      rw [Nat.testBit_lt_two_pow small] at set
      cases set
    omega
  · intro below
    exact ⟨x.log2,by omega,by omega,Nat.testBit_log2 nonzero⟩

end Smear

end Bits
