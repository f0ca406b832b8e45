import OpenFlow.Lib.ByteOrder
import OpenFlow.Lib.OnesComplement

/-! The IP checksum helpers of lib/csum.c. -/
namespace OpenFlow
open OnesComplement

def csumAdd16 (acc : UInt32) (new : UInt16) : UInt32 := acc + new.toUInt32

/- The loop over 16-bit words, and the odd trailing byte added on its own. -/
def csumContinue (acc : UInt32) : List UInt8 → UInt32
  | b0 :: b1 :: rest => csumContinue (csumAdd16 acc (LittleEndian.get16 [b0,b1] 0)) rest
  | [b] => acc + b.toUInt32
  | [] => acc

def csumFinish (acc : UInt32) : UInt16 := (~~~((acc &&& (0xffff : UInt32)) + (acc >>> 16))).toUInt16

def csum (data : List UInt8) : UInt16 := csumFinish (csumContinue 0 data)

/- The words csum_continue adds, on a little-endian host: the odd last byte is the low half of its word. -/
def leWords : List UInt8 → List UInt16
  | b0 :: b1 :: rest => LittleEndian.get16 [b0,b1] 0 :: leWords rest
  | [b] => [b.toUInt16]
  | [] => []

/- Whether csum_finish's single fold leaves no carry. -/
def finishFolds (acc : UInt32) : Bool := acc.toNat % 65536 + acc.toNat / 65536 < 65536

/- RFC 1624's HC' = ~(~HC + ~m + m'), with the carry folded back once. -/
def recalcCsum16 (oldCsum oldU16 newU16 : UInt16) : UInt16 :=
  let hcComplement := ~~~oldCsum
  let mComplement := ~~~oldU16
  let mPrime := newU16
  let sum : UInt32 := hcComplement.toUInt32 + mComplement.toUInt32 + mPrime.toUInt32
  let hcPrimeComplement : UInt16 := (sum + (sum >>> 16)).toUInt16
  ~~~hcPrimeComplement

def recalcCsum32 (oldCsum : UInt16) (oldU32 newU32 : UInt32) : UInt16 :=
  recalcCsum16 (recalcCsum16 oldCsum oldU32.toUInt16 newU32.toUInt16)
    (oldU32 >>> 16).toUInt16 (newU32 >>> 16).toUInt16

/- The 32-bit sum recalc_csum16 folds, and whether its one fold is enough. -/
def recalcSum (oldCsum oldU16 newU16 : UInt16) : Nat := (~~~oldCsum).toNat + (~~~oldU16).toNat + newU16.toNat

def recalcFolds (oldCsum oldU16 newU16 : UInt16) : Bool := recalcSum oldCsum oldU16 newU16 != 0x1ffff

def recalc32Folds (oldCsum : UInt16) (oldU32 newU32 : UInt32) : Bool :=
  recalcFolds oldCsum oldU32.toUInt16 newU32.toUInt16 &&
    recalcFolds (recalcCsum16 oldCsum oldU32.toUInt16 newU32.toUInt16) (oldU32 >>> 16).toUInt16
      (newU32 >>> 16).toUInt16

/- What a fold that carries again loses. -/
def missedCarry (folds : Bool) : Residue := if folds then 0 else 1

/- The two 16-bit halves of a 32-bit field, summed. -/
def halvesSum (v : UInt32) : Residue := (v.toUInt16.toNat : Residue) + ((v >>> 16).toUInt16.toNat : Residue)

/- The carries recalc_csum32's two folds miss. -/
def recalc32Missed (oldCsum : UInt16) (oldU32 newU32 : UInt32) : Residue :=
  missedCarry (recalcFolds oldCsum oldU32.toUInt16 newU32.toUInt16) +
    missedCarry (recalcFolds (recalcCsum16 oldCsum oldU32.toUInt16 newU32.toUInt16) (oldU32 >>> 16).toUInt16
      (newU32 >>> 16).toUInt16)

/- Three words whose sum, 0x1ffff, folds once to 0x10000: csum_finish cuts the carry off and returns 0xffff
where the Internet checksum is 0xfffe. -/
theorem csumMissesCarry :
    csumContinue 0 [0xff,0xff,0xff,0xff,0x01,0x00] = 0x1ffff ∧
      csum [0xff,0xff,0xff,0xff,0x01,0x00] = 0xffff ∧
      internetChecksum (leWords [0xff,0xff,0xff,0xff,0x01,0x00]) = 0xfffe := by
  decide

/- A string whose checksum field, bytes 2 and 3, holds 0, the csum of the rest, and whose last word goes from
0 to 1. -/
theorem recalcMissesCarry :
    csum [0xff,0xff,0x00,0x00,0x00,0x00] = 0 ∧ csum [0xff,0xff,0x00,0x00,0x01,0x00] = 0xfffe ∧
      recalcSum 0 0 1 = 0x1ffff ∧ recalcCsum16 0 0 1 = 0xffff := by
  decide

end OpenFlow
