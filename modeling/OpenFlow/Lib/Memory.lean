import Mathlib

/-! A memory of cells at natural-number addresses, kept as a function, with the reads and writes of runs of
consecutive cells that memcpy makes. -/
namespace Memory

variable {α : Type*}

/- The `n` cells from address `p`. -/
def read (mem : Nat → α) (p n : Nat) : List α := (List.range n).map fun i => mem (p + i)

/- `bs` written from address `p`; every other cell keeps its value. -/
def write (mem : Nat → α) (p : Nat) (bs : List α) : Nat → α :=
  fun i => if p ≤ i then (bs[i - p]?).getD (mem i) else mem i

/- The addresses of the `n` cells from `p`. -/
def region (p n : Nat) : Finset Nat := Finset.Ico p (p + n)

section ReadWrite
variable (mem : Nat → α)

@[simp] theorem readLength (p n : Nat) : (read mem p n).length = n := by
  simp [read]

theorem readCongr {mem' : Nat → α} {p n : Nat} (same : ∀ i, p ≤ i → i < p + n → mem i = mem' i) :
    read mem p n = read mem' p n := by
  unfold read
  refine List.map_congr_left fun i within => ?_
  have below := List.mem_range.mp within
  exact same (p + i) (by omega) (by omega)

theorem readAdd (p n m : Nat) : read mem p (n + m) = read mem p n ++ read mem (p + n) m := by
  simp [read,List.range_add,Nat.add_assoc]

theorem writeOutside {p i : Nat} {bs : List α} (outside : i < p ∨ p + bs.length ≤ i) :
    write mem p bs i = mem i := by
  unfold write
  split
  · rw [List.getElem?_eq_none (by omega),Option.getD_none]
  · rfl

theorem readWriteSelf (p : Nat) (bs : List α) : read (write mem p bs) p bs.length = bs := by
  refine List.ext_getElem (readLength _ _ _) fun i inRead inBs => ?_
  simp [read,write,List.getElem?_eq_getElem inBs]

theorem readWriteOutside {p n q : Nat} {bs : List α} (apart : Disjoint (region p n) (region q bs.length)) :
    read (write mem q bs) p n = read mem p n := by
  refine readCongr _ fun i low high => writeOutside mem ?_
  by_contra covered
  have inRead : i ∈ region p n := by simp [region]; omega
  exact Finset.disjoint_left.mp apart inRead (by simp [region]; omega)

end ReadWrite

section Regions

@[simp] theorem memRegion {p n i : Nat} : i ∈ region p n ↔ p ≤ i ∧ i < p + n := by
  simp [region]

@[simp] theorem cardRegion (p n : Nat) : (region p n).card = n := by
  simp [region]

@[simp] theorem regionZero (p : Nat) : region p 0 = ∅ := by
  simp [region]

theorem regionWithin {p n u : Nat} : region p n ⊆ Finset.range u ↔ n = 0 ∨ p + n ≤ u := by
  constructor
  · intro within
    by_contra outside
    have last := within (memRegion.mpr (show p ≤ p + n - 1 ∧ p + n - 1 < p + n by omega))
    simp only [Finset.mem_range] at last
    omega
  · intro fits i inside
    simp only [memRegion] at inside
    simp only [Finset.mem_range]
    omega

theorem regionsApart {p n q m : Nat} (ends : p + n ≤ q ∨ q + m ≤ p) : Disjoint (region p n) (region q m) := by
  rw [Finset.disjoint_left]
  intro i first second
  simp only [memRegion] at first second
  omega

theorem regionsApartAt {p n u m : Nat} (within : region p n ⊆ Finset.range u) : Disjoint (region p n) (region u m) := by
  rcases regionWithin.mp within with empty | fits
  · subst empty
    simp
  · exact regionsApart (.inl fits)

theorem regionBefore {p n q m : Nat} (within : region p n ⊆ Finset.range (q + m))
    (apart : Disjoint (region p n) (region q m)) : region p n ⊆ Finset.range q := by
  rcases regionWithin.mp within with empty | fits
  · simp [empty]
  · refine regionWithin.mpr ?_
    by_contra after
    push Not at after
    have lastHere : p + n - 1 ∈ region p n := by simp; omega
    have lastThere : p + n - 1 ∈ region q m := by simp; omega
    exact Finset.disjoint_left.mp apart lastHere lastThere

theorem sumLengthsLe {ι : Type*} [Fintype ι] [DecidableEq ι] (start len : ι → Nat) (u : Nat)
    (inside : ∀ i, region (start i) (len i) ⊆ Finset.range u)
    (apart : ∀ i j, i ≠ j → Disjoint (region (start i) (len i)) (region (start j) (len j))) : ∑ i, len i ≤ u := by
  have covered : Finset.univ.biUnion (fun i => region (start i) (len i)) ⊆ Finset.range u :=
    Finset.biUnion_subset.mpr fun i _ => inside i
  have counted := Finset.card_le_card covered
  rw [Finset.card_biUnion fun i _ j _ distinct => apart i j distinct] at counted
  simpa using counted

end Regions

end Memory
