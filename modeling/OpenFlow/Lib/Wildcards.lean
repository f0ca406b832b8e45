import Mathlib

/-! Patterns made of fields that are either wildcarded or compared for equality, and of 32-bit words compared
under a mask. -/
namespace Wildcards

section Field
variable {α : Type*} [BEq α] [LawfulBEq α] {wa wb : Bool} {x y : α}

theorem fieldAgree {z : α} (ha : (wa || z == x) = true) (hb : (wb || z == y) = true) :
    (wa || wb || x == y) = true := by
  cases wa <;> cases wb <;> simp_all

theorem fieldMeet (agree : (wa || wb || x == y) = true) :
    (wa || (if wa then y else x) == x) = true ∧ (wb || (if wa then y else x) == y) = true := by
  cases wa <;> cases wb <;> simp_all

/- Two guarded fields that accept the same values: the flags agree, and so do the values unless the field is
wildcarded. -/
def SameField (wa wb : Bool) (x y : α) : Prop := wb = wa ∧ (wa = true ∨ y = x)

omit [LawfulBEq α] in
theorem SameField.test (same : SameField wa wb x y) (z : α) : (wb || z == y) = (wa || z == x) := by
  obtain ⟨rfl,wildA | rfl⟩ := same
  · simp [wildA]
  · rfl

omit [BEq α] [LawfulBEq α] in
theorem SameField.map {β : Type*} (same : SameField wa wb x y) (f : α → β) : SameField wa wb (f x) (f y) := by
  obtain ⟨rfl,wildA | rfl⟩ := same
  · exact ⟨rfl,.inl wildA⟩
  · exact ⟨rfl,.inr rfl⟩

omit [BEq α] [LawfulBEq α] in
theorem SameField.wildBoth : SameField true true x y := ⟨rfl,.inl rfl⟩

omit [BEq α] [LawfulBEq α] in
theorem SameField.ofEq (flags : wb = wa) : SameField wa wb x x := ⟨flags,.inr rfl⟩

end Field

section Masked

theorem zeroIffBits {v : UInt32} : v = 0 ↔ ∀ i (hi : i < 32), v.toBitVec[i] = false := by
  rw [← UInt32.toBitVec_inj]
  constructor
  · rintro zero i hi
    simp [zero]
  · intro bits
    ext i hi
    simp [bits i hi]

theorem maskedAgree {x y z ma mb : UInt32} (hx : (z ^^^ x) &&& ma = 0) (hy : (z ^^^ y) &&& mb = 0) :
    (x ^^^ y) &&& (ma &&& mb) = 0 := by
  rw [zeroIffBits] at hx hy ⊢
  intro i hi
  have bx := hx i hi
  have by' := hy i hi
  simp only [UInt32.toBitVec_and,UInt32.toBitVec_xor,BitVec.getElem_and,BitVec.getElem_xor] at bx by' ⊢
  grind

theorem maskedMeet {x y ma mb : UInt32} (agree : (x ^^^ y) &&& (ma &&& mb) = 0) :
    ((x &&& ma ||| y &&& ~~~ma) ^^^ x) &&& ma = 0 ∧ ((x &&& ma ||| y &&& ~~~ma) ^^^ y) &&& mb = 0 := by
  simp only [zeroIffBits,UInt32.toBitVec_and,UInt32.toBitVec_xor,UInt32.toBitVec_or,UInt32.toBitVec_not,
    BitVec.getElem_and,BitVec.getElem_xor,BitVec.getElem_or,BitVec.getElem_not] at agree ⊢
  constructor
  · intro i hi
    have bit := agree i hi
    grind
  · intro i hi
    have bit := agree i hi
    grind

theorem maskedSame {k x y m : UInt32} (same : y &&& m = x &&& m) : (k ^^^ y) &&& m = (k ^^^ x) &&& m := by
  apply UInt32.toBitVec_inj.1
  ext i hi
  have bit := congrArg (fun v : UInt32 => v.toBitVec[i]) same
  simp only [UInt32.toBitVec_and,BitVec.getElem_and] at bit
  simp only [UInt32.toBitVec_and,UInt32.toBitVec_xor,BitVec.getElem_and,BitVec.getElem_xor]
  revert bit
  cases k.toBitVec[i] <;> cases x.toBitVec[i] <;> cases y.toBitVec[i] <;> cases m.toBitVec[i] <;> decide

end Masked

end Wildcards
