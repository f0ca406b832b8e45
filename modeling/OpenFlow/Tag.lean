import Mathlib
import OpenFlow.Lib.Bits

/-! Tags (lib/tag.c). -/
namespace OpenFlow.Tags
open Bits

/- tag_intersects and tag_is_valid -/
def tagIntersects (a b : UInt32) : Bool :=
  let x := a &&& b
  x &&& (x - 1) != 0

def tagIsValid (tag : UInt32) : Bool :=
  let x := tag &&& (tag - 1)
  let y := x &&& (x - 1)
  x != 0 && y == 0

/- (1u << x) | (1u << y) -/
def tagOfBits (x y : Nat) : UInt32 := ((1 : UInt32) <<< x.toUInt32) ||| ((1 : UInt32) <<< y.toUInt32)

/- One draw of tag_create_random's loop from random_uint16: `none` when the two bit numbers agree and it draws
again. -/
def tagCreateRandomDraw (r : UInt16) : Option UInt32 :=
  let x := (r &&& 31).toNat
  let y := (r >>> 11).toNat
  if x = y then none else some (tagOfBits x y)

def tagCreateDeterministic (seed : UInt32) : UInt32 :=
  let x := (seed &&& 31).toNat
  let y := ((seed >>> 5) % 31).toNat
  tagOfBits x (if y ≥ x then y + 1 else y)

/- A tag as the two constructors make it: two different bit numbers. -/
structure Tag where
  x : Fin 32
  y : Fin 32
  distinct : x ≠ y

def Tag.bits (t : Tag) : UInt32 := tagOfBits t.x t.y

/- struct tag_set -/
structure TagSet where
  total : UInt32
  tags : Vector UInt32 4
  n : Nat

def tagSetInit : TagSet := ⟨0,Vector.replicate 4 0,0⟩

def tagSetIntersects (set : TagSet) (tags : UInt32) : Bool :=
  tagIntersects set.total tags &&
    (tagIntersects set.tags[0] tags || tagIntersects set.tags[1] tags || tagIntersects set.tags[2] tags ||
      tagIntersects set.tags[3] tags)

/- tag_set_add: a tag already in the set is not added again; a word that fills up is copied to word 0. -/
def tagSetAdd (set : TagSet) (tag : UInt32) : TagSet :=
  if tag ≠ 0 ∧ (!tagIsValid tag || !tagSetIntersects set tag) then
    let k := set.n % 4
    have hk : k < 4 := Nat.mod_lt _ (by decide)
    let t := set.tags[k] ||| tag
    let tags := set.tags.set k t
    { total := set.total ||| tag
      tags := if t = 0xffffffff then tags.set 0 t else tags
      n := set.n + 1 }
  else set

section Bits
variable (t : Tag)

theorem tagOfBitsFacts : ∀ x y : Fin 32, x ≠ y →
    tagIsValid (tagOfBits x y) = true ∧
      tagOfBits x y &&& (tagOfBits x y - 1) ≠ 0 ∧
      ((1 : UInt32) <<< x.val.toUInt32) &&& (((1 : UInt32) <<< x.val.toUInt32) - 1) = 0 ∧
      ((1 : UInt32) <<< y.val.toUInt32) &&& (((1 : UInt32) <<< y.val.toUInt32) - 1) = 0 ∧
      (1 : UInt32) <<< x.val.toUInt32 ≠ tagOfBits x y ∧ (1 : UInt32) <<< y.val.toUInt32 ≠ tagOfBits x y ∧
      (0 : UInt32) ≠ tagOfBits x y := by
  decide

theorem tagNeZero : t.bits ≠ 0 := fun zero => (tagOfBitsFacts t.x t.y t.distinct).2.2.2.2.2.2 zero.symm

theorem tagIntersectsBits (a : UInt32) : tagIntersects a t.bits = (a &&& t.bits == t.bits) := by
  obtain ⟨_,pair,singleX,singleY,neX,neY,neZero⟩ := tagOfBitsFacts t.x t.y t.distinct
  have meet : a &&& t.bits = (if a.toBitVec.getLsbD t.x then (1 : UInt32) <<< t.x.val.toUInt32 else 0) |||
      (if a.toBitVec.getLsbD t.y then (1 : UInt32) <<< t.y.val.toUInt32 else 0) := by
    rw [Tag.bits,tagOfBits,andOrDistribLeft,andBit a t.x.isLt,andBit a t.y.isLt]
  simp only [tagIntersects,meet]
  cases a.toBitVec.getLsbD t.x <;> cases a.toBitVec.getLsbD t.y
  · simp only [Bool.false_eq_true,if_false,UInt32.zero_or,UInt32.zero_and,bne_self_eq_false]
    exact (beq_eq_false_iff_ne.mpr neZero).symm
  · simp only [Bool.false_eq_true,if_false,if_true,UInt32.zero_or,singleY,bne_self_eq_false]
    exact (beq_eq_false_iff_ne.mpr neY).symm
  · simp only [Bool.false_eq_true,if_false,if_true,UInt32.or_zero,singleX,bne_self_eq_false]
    exact (beq_eq_false_iff_ne.mpr neX).symm
  · have whole : (1 : UInt32) <<< t.x.val.toUInt32 ||| (1 : UInt32) <<< t.y.val.toUInt32 = t.bits := rfl
    simp only [if_true,whole,beq_self_eq_true]
    exact bne_iff_ne.mpr pair

end Bits

theorem lowFiveLt (seed : UInt32) : (seed &&& 31).toNat < 32 := by
  have bounded : seed.toNat &&& (31 : UInt32).toNat ≤ (31 : UInt32).toNat := Nat.and_le_right
  rw [UInt32.toNat_and]
  exact Nat.lt_of_le_of_lt bounded (by decide)

theorem modThirtyOneLt (w : UInt32) : (w % 31).toNat < 31 := by
  rw [UInt32.toNat_mod]
  exact Nat.mod_lt _ (by decide)

/- The tag tag_create_deterministic returns: `y` skips over `x`. -/
def tagCreateDeterministicTag (seed : UInt32) : Tag where
  x := ⟨(seed &&& 31).toNat,lowFiveLt seed⟩
  y := ⟨if ((seed >>> 5) % 31).toNat ≥ (seed &&& 31).toNat then ((seed >>> 5) % 31).toNat + 1
      else ((seed >>> 5) % 31).toNat,by
    have := modThirtyOneLt (seed >>> 5)
    split <;> omega⟩
  distinct := by
    intro same
    have apart := congrArg Fin.val same
    dsimp only at apart
    split at apart <;> omega

section Set
variable {set : TagSet}

/- Every bit of `b` is in the set's OR and in one of its words. -/
def Covers (set : TagSet) (b : UInt32) : Prop :=
  set.total &&& b = b ∧ ∃ i, ∃ h : i < 4, set.tags[i] &&& b = b

theorem tagSetIntersectsIff (t : Tag) : tagSetIntersects set t.bits = true ↔ Covers set t.bits := by
  simp only [tagSetIntersects,tagIntersectsBits,Covers,Bool.and_eq_true,Bool.or_eq_true,beq_iff_eq]
  constructor
  · rintro ⟨total,((w0 | w1) | w2) | w3⟩
    · exact ⟨total,0,by decide,w0⟩
    · exact ⟨total,1,by decide,w1⟩
    · exact ⟨total,2,by decide,w2⟩
    · exact ⟨total,3,by decide,w3⟩
  · rintro ⟨total,i,hi,word⟩
    refine ⟨total,?_⟩
    interval_cases i <;> simp [word]

theorem tagSetAddWords (tag : UInt32) : (tagSetAdd set tag).total &&& set.total = set.total ∧
    ∀ i (hi : i < 4), (tagSetAdd set tag).tags[i] &&& set.tags[i] = set.tags[i] := by
  unfold tagSetAdd
  split
  · refine ⟨orAbsorb _ _,fun i hi => ?_⟩
    dsimp only
    have hk : set.n % 4 < 4 := Nat.mod_lt _ (by decide)
    have grown : ((set.tags.set (set.n % 4) (set.tags[set.n % 4] ||| tag))[i]) &&& set.tags[i] = set.tags[i] := by
      by_cases landed : set.n % 4 = i
      · subst landed
        rw [Vector.getElem_set_self]
        exact orAbsorb _ _
      · rw [Vector.getElem_set_ne _ _ landed]
        exact UInt32.and_self
    split
    · rename_i full
      by_cases zero : i = 0
      · subst zero
        rw [Vector.getElem_set_self,full]
        exact allOnesAnd _
      · rw [Vector.getElem_set_ne _ _ (Ne.symm zero)]
        exact grown
    · exact grown
  · exact ⟨UInt32.and_self,fun _ _ => UInt32.and_self⟩

theorem coversAdd {b : UInt32} (covered : Covers set b) (tag : UInt32) : Covers (tagSetAdd set tag) b := by
  obtain ⟨total,i,hi,word⟩ := covered
  obtain ⟨grownTotal,grownWords⟩ := tagSetAddWords tag
  exact ⟨withinTrans total grownTotal,i,hi,withinTrans word (grownWords i hi)⟩

theorem landedWord (tags : Vector UInt32 4) (k : Nat) (hk : k < 4) (w : UInt32) :
    (if w = 0xffffffff then (tags.set k w hk).set 0 w else tags.set k w hk)[k] = w := by
  split
  · by_cases zero : k = 0
    · subst zero
      exact Vector.getElem_set_self _
    · rw [Vector.getElem_set_ne _ _ (Ne.symm zero),Vector.getElem_set_self]
  · exact Vector.getElem_set_self _

theorem tagSetAddCovers (t : Tag) : Covers (tagSetAdd set t.bits) t.bits := by
  unfold tagSetAdd
  split
  · dsimp only
    refine ⟨?_,set.n % 4,Nat.mod_lt _ (by decide),?_⟩
    · rw [UInt32.or_comm]
      exact orAbsorb _ _
    · rw [landedWord,UInt32.or_comm]
      exact orAbsorb _ _
  · rename_i kept
    have inSet : tagSetIntersects set t.bits = true := by
      simp only [not_and,Bool.or_eq_true,Bool.not_eq_true',not_or,Bool.not_eq_false] at kept
      exact (kept (tagNeZero t)).2
    exact (tagSetIntersectsIff t).mp inSet

end Set

end OpenFlow.Tags
