import Mathlib

/-! Big-endian (network order) images of 16- and 32-bit words in byte lists, and the little-endian order in
which a host such as x86 loads and stores them. -/
namespace BigEndian

def ofUInt16 (v : UInt16) : List UInt8 := [(v >>> 8).toUInt8,v.toUInt8]

def ofUInt32 (v : UInt32) : List UInt8 :=
  [(v >>> 24).toUInt8,(v >>> 16).toUInt8,(v >>> 8).toUInt8,v.toUInt8]

def get16 (bs : List UInt8) (off : Nat) : UInt16 :=
  ((bs.getD off 0).toUInt16 <<< 8) ||| (bs.getD (off + 1) 0).toUInt16

def ofUInt64 (v : UInt64) : List UInt8 :=
  ofUInt32 (v >>> 32).toUInt32 ++ ofUInt32 v.toUInt32

def get32 (bs : List UInt8) (off : Nat) : UInt32 :=
  ((get16 bs off).toUInt32 <<< 16) ||| (get16 bs (off + 2)).toUInt32

def get64 (bs : List UInt8) (off : Nat) : UInt64 :=
  ((get32 bs off).toUInt64 <<< 32) ||| (get32 bs (off + 4)).toUInt64

@[simp] theorem lengthOfUInt16 (v : UInt16) : (ofUInt16 v).length = 2 := rfl

@[simp] theorem lengthOfUInt32 (v : UInt32) : (ofUInt32 v).length = 4 := rfl

@[simp] theorem lengthOfUInt64 (v : UInt64) : (ofUInt64 v).length = 8 := rfl

theorem get16Append (pre bs : List UInt8) (off : Nat) : get16 (pre ++ bs) (pre.length + off) = get16 bs off := by
  simp only [get16,List.getD_eq_getElem?_getD,Nat.add_assoc,List.getElem?_append_right (Nat.le_add_right _ _),
    Nat.add_sub_cancel_left]

theorem get16Within {bs : List UInt8} (rest : List UInt8) {off : Nat} (inside : off + 2 ≤ bs.length) :
    get16 (bs ++ rest) off = get16 bs off := by
  simp only [get16,List.getD_eq_getElem?_getD,List.getElem?_append_left (by omega : off < bs.length),
    List.getElem?_append_left (by omega : off + 1 < bs.length)]

theorem get16OfUInt16 (v : UInt16) (rest : List UInt8) : get16 (ofUInt16 v ++ rest) 0 = v := by
  simp only [get16,ofUInt16,List.cons_append,List.nil_append,List.getD_cons_zero,List.getD_cons_succ]
  apply UInt16.toNat_inj.mp
  have lt := v.toNat_lt
  simp only [UInt16.toNat_or,UInt16.toNat_shiftLeft,UInt8.toNat_toUInt16,UInt16.toNat_toUInt8,
    UInt16.toNat_shiftRight]
  have e8 : UInt16.toNat 8 % 16 = 8 := rfl
  have high : v.toNat >>> 8 % 2 ^ 8 = v.toNat / 2 ^ 8 := by rw [Nat.shiftRight_eq_div_pow]; omega
  have fits : (v.toNat / 2 ^ 8) <<< 8 % 2 ^ 16 = (v.toNat / 2 ^ 8) <<< 8 := by rw [Nat.shiftLeft_eq]; omega
  rw [e8,high,fits,← Nat.shiftLeft_add_eq_or_of_lt (by omega),Nat.shiftLeft_eq]
  omega

theorem get16Field (pre rest : List UInt8) (v : UInt16) : get16 (pre ++ ofUInt16 v ++ rest) pre.length = v := by
  rw [List.append_assoc,← Nat.add_zero pre.length,get16Append,get16OfUInt16]

theorem ofUInt32Halves (v : UInt32) : ofUInt32 v = ofUInt16 (v >>> 16).toUInt16 ++ ofUInt16 v.toUInt16 := by
  simp only [ofUInt32,ofUInt16,List.cons_append,List.nil_append,List.cons.injEq,and_true]
  refine ⟨?_,?_,?_,?_⟩ <;> apply UInt8.toNat_inj.mp <;> simp <;> omega

theorem get32Append (pre bs : List UInt8) (off : Nat) : get32 (pre ++ bs) (pre.length + off) = get32 bs off := by
  simp only [get32,Nat.add_assoc,get16Append]

theorem get32OfUInt32 (v : UInt32) (rest : List UInt8) : get32 (ofUInt32 v ++ rest) 0 = v := by
  have low : get16 (ofUInt16 (v >>> 16).toUInt16 ++ ofUInt16 v.toUInt16 ++ rest) 2 = v.toUInt16 :=
    get16Field (ofUInt16 (v >>> 16).toUInt16) rest v.toUInt16
  rw [get32,ofUInt32Halves,low,List.append_assoc,get16OfUInt16]
  apply UInt32.toNat_inj.mp
  have lt := v.toNat_lt
  simp only [UInt32.toNat_or,UInt32.toNat_shiftLeft,UInt16.toNat_toUInt32,UInt32.toNat_toUInt16,
    UInt32.toNat_shiftRight]
  have e16 : UInt32.toNat 16 % 32 = 16 := rfl
  have high : v.toNat >>> 16 % 2 ^ 16 = v.toNat / 2 ^ 16 := by rw [Nat.shiftRight_eq_div_pow]; omega
  have fits : (v.toNat / 2 ^ 16) <<< 16 % 2 ^ 32 = (v.toNat / 2 ^ 16) <<< 16 := by rw [Nat.shiftLeft_eq]; omega
  rw [e16,high,fits,← Nat.shiftLeft_add_eq_or_of_lt (by omega),Nat.shiftLeft_eq]
  omega

theorem get32Field (pre rest : List UInt8) (v : UInt32) : get32 (pre ++ ofUInt32 v ++ rest) pre.length = v := by
  rw [List.append_assoc,← Nat.add_zero pre.length,get32Append,get32OfUInt32]

theorem get64Append (pre bs : List UInt8) (off : Nat) : get64 (pre ++ bs) (pre.length + off) = get64 bs off := by
  simp only [get64,Nat.add_assoc,get32Append]

theorem get64OfUInt64 (v : UInt64) (rest : List UInt8) : get64 (ofUInt64 v ++ rest) 0 = v := by
  have low : get32 (ofUInt32 (v >>> 32).toUInt32 ++ ofUInt32 v.toUInt32 ++ rest) 4 = v.toUInt32 :=
    get32Field (ofUInt32 (v >>> 32).toUInt32) rest v.toUInt32
  rw [get64,ofUInt64,low,List.append_assoc,get32OfUInt32]
  apply UInt64.toNat_inj.mp
  have lt := v.toNat_lt
  simp only [UInt64.toNat_or,UInt64.toNat_shiftLeft,UInt32.toNat_toUInt64,UInt64.toNat_toUInt32,
    UInt64.toNat_shiftRight]
  have e32 : UInt64.toNat 32 % 64 = 32 := rfl
  have high : v.toNat >>> 32 % 2 ^ 32 = v.toNat / 2 ^ 32 := by rw [Nat.shiftRight_eq_div_pow]; omega
  have fits : (v.toNat / 2 ^ 32) <<< 32 % 2 ^ 64 = (v.toNat / 2 ^ 32) <<< 32 := by rw [Nat.shiftLeft_eq]; omega
  rw [e32,high,fits,← Nat.shiftLeft_add_eq_or_of_lt (by omega),Nat.shiftLeft_eq]
  omega

theorem get16Cons (a : UInt8) (bs : List UInt8) (off : Nat) : get16 (a :: bs) (off + 1) = get16 bs off := by
  rw [Nat.add_comm]
  exact get16Append [a] bs off

theorem get32Cons (a : UInt8) (bs : List UInt8) (off : Nat) : get32 (a :: bs) (off + 1) = get32 bs off := by
  rw [Nat.add_comm]
  exact get32Append [a] bs off

theorem get16Bytes (v : UInt16) (rest : List UInt8) : get16 ((v >>> 8).toUInt8 :: v.toUInt8 :: rest) 0 = v :=
  get16OfUInt16 v rest

theorem get32Bytes (v : UInt32) (rest : List UInt8) :
    get32 ((v >>> 24).toUInt8 :: (v >>> 16).toUInt8 :: (v >>> 8).toUInt8 :: v.toUInt8 :: rest) 0 = v :=
  get32OfUInt32 v rest

theorem get64Bytes (v : UInt64) (rest : List UInt8) :
    get64 (((v >>> 32).toUInt32 >>> 24).toUInt8 :: ((v >>> 32).toUInt32 >>> 16).toUInt8 ::
      ((v >>> 32).toUInt32 >>> 8).toUInt8 :: (v >>> 32).toUInt32.toUInt8 :: (v.toUInt32 >>> 24).toUInt8 ::
      (v.toUInt32 >>> 16).toUInt8 :: (v.toUInt32 >>> 8).toUInt8 :: v.toUInt32.toUInt8 :: rest) 0 = v :=
  get64OfUInt64 v rest

end BigEndian

/- Loads and stores of a little-endian host; `swap16` is its htons and ntohs. -/
namespace LittleEndian

def ofUInt16 (v : UInt16) : List UInt8 := [v.toUInt8,(v >>> 8).toUInt8]

def ofUInt32 (v : UInt32) : List UInt8 :=
  [v.toUInt8,(v >>> 8).toUInt8,(v >>> 16).toUInt8,(v >>> 24).toUInt8]

def get16 (bs : List UInt8) (off : Nat) : UInt16 :=
  (bs.getD off 0).toUInt16 ||| ((bs.getD (off + 1) 0).toUInt16 <<< 8)

def get32 (bs : List UInt8) (off : Nat) : UInt32 :=
  (get16 bs off).toUInt32 ||| ((get16 bs (off + 2)).toUInt32 <<< 16)

def swap16 (v : UInt16) : UInt16 := (v <<< 8) ||| (v >>> 8)

@[simp] theorem lengthOfUInt16 (v : UInt16) : (ofUInt16 v).length = 2 := rfl

@[simp] theorem lengthOfUInt32 (v : UInt32) : (ofUInt32 v).length = 4 := rfl

end LittleEndian
