import Mathlib

/-! The first hit of a search over a range of indices: the least index in `[lo, hi)` at which a partial
function has a value, with that value, or nothing when there is none. -/
namespace Search

variable {α : Type*}

/- `r` is the first hit of `V` in `[lo, hi)`. -/
def FirstFrom (V : Nat → Option α) (lo hi : Nat) : Option (Nat × α) → Prop
  | none => ∀ k, lo ≤ k → k < hi → V k = none
  | some hit => lo ≤ hit.1 ∧ hit.1 < hi ∧ V hit.1 = some hit.2 ∧ ∀ j, lo ≤ j → j < hit.1 → V j = none

/- The search from `lo` over `n` indices, one at a time. -/
def first (V : Nat → Option α) : Nat → Nat → Option (Nat × α)
  | _, 0 => none
  | lo, n + 1 =>
    match V lo with
    | some p => some (lo,p)
    | none => first V (lo + 1) n

section Rules
variable {V : Nat → Option α} {lo mid hi : Nat}

theorem FirstFrom.empty (past : hi ≤ lo) : FirstFrom V lo hi none := fun k low high => by omega

theorem FirstFrom.hit {p : α} (found : V lo = some p) (within : lo < hi) : FirstFrom V lo hi (some (lo,p)) :=
  ⟨le_rfl,within,found,fun j low high => by omega⟩

theorem FirstFrom.miss {r : Option (Nat × α)} (missed : V lo = none) (rest : FirstFrom V (lo + 1) hi r) :
    FirstFrom V lo hi r := by
  have here : ∀ k, lo ≤ k → k < lo + 1 → V k = none := fun k low high => by
    rw [show k = lo by omega]
    exact missed
  cases r with
  | none => exact fun k low high => if h : k < lo + 1 then here k low h else rest k (by omega) high
  | some hit =>
    obtain ⟨low,high,found,before⟩ := rest
    exact ⟨by omega,high,found,fun j low' high' => if h : j < lo + 1 then here j low' h else before j (by omega) high'⟩

theorem FirstFrom.append {r : Option (Nat × α)} (none : FirstFrom V lo mid none) (rest : FirstFrom V mid hi r)
    (ordered : lo ≤ mid) : FirstFrom V lo hi r := by
  cases r with
  | none => exact fun k low high => if h : k < mid then none k low h else rest k (by omega) high
  | some hit =>
    obtain ⟨low,high,found,before⟩ := rest
    exact ⟨by omega,high,found,fun j low' high' => if h : j < mid then none j low' h else before j (by omega) high'⟩

theorem FirstFrom.widen {hit : Nat × α} (found : FirstFrom V lo mid (some hit)) (longer : mid ≤ hi) :
    FirstFrom V lo hi (some hit) := by
  obtain ⟨low,high,value,before⟩ := found
  exact ⟨low,by omega,value,before⟩

theorem FirstFrom.shift {base : Nat} {r : Option (Nat × α)} (found : FirstFrom (fun j => V (base + j)) lo hi r) :
    FirstFrom V (base + lo) (base + hi) (r.map fun hit => (base + hit.1,hit.2)) := by
  cases r with
  | none =>
    intro k low high
    have := found (k - base) (by omega) (by omega)
    simpa [show base + (k - base) = k by omega] using this
  | some hit =>
    obtain ⟨low,high,value,before⟩ := found
    refine ⟨by simp; omega,by simp; omega,value,fun j low' high' => ?_⟩
    have := before (j - base) (by omega) (by simp at high'; omega)
    simpa [show base + (j - base) = j by omega] using this

theorem FirstFrom.congr {V' : Nat → Option α} {r : Option (Nat × α)} (same : ∀ k, lo ≤ k → k < hi → V k = V' k)
    (found : FirstFrom V lo hi r) : FirstFrom V' lo hi r := by
  cases r with
  | none => exact fun k low high => (same k low high).symm.trans (found k low high)
  | some hit =>
    obtain ⟨low,high,value,before⟩ := found
    exact ⟨low,high,(same _ low high).symm.trans value,fun j low' high' =>
      (same j low' (by omega)).symm.trans (before j low' high')⟩

theorem FirstFrom.unique {r r' : Option (Nat × α)} (found : FirstFrom V lo hi r) (found' : FirstFrom V lo hi r') :
    r = r' := by
  cases r with
  | none =>
    cases r' with
    | none => rfl
    | some hit =>
      obtain ⟨low,high,value,_⟩ := found'
      rw [found hit.1 low high] at value
      cases value
  | some hit =>
    obtain ⟨low,high,value,before⟩ := found
    cases r' with
    | none =>
      rw [found' hit.1 low high] at value
      cases value
    | some hit' =>
      obtain ⟨low',high',value',before'⟩ := found'
      have same : hit.1 = hit'.1 := by
        by_contra differ
        rcases Nat.lt_or_gt_of_ne differ with earlier | later
        · rw [before' hit.1 low earlier] at value
          cases value
        · rw [before hit'.1 low' later] at value'
          cases value'
      rw [same,value'] at value
      exact congrArg some (Prod.ext same (Option.some.inj value).symm)

theorem firstSpec : ∀ (lo n : Nat), FirstFrom V lo (lo + n) (first V lo n)
  | lo, 0 => FirstFrom.empty (by omega)
  | lo, n + 1 => by
    unfold first
    split
    · rename_i p found
      exact FirstFrom.hit found (by omega)
    · rename_i missed
      have rest := firstSpec (lo + 1) n
      rw [show lo + 1 + n = lo + (n + 1) by omega] at rest
      exact FirstFrom.miss missed rest

theorem firstNone {n : Nat} (empty : ∀ k, lo ≤ k → k < lo + n → V k = none) : first V lo n = none :=
  (firstSpec lo n).unique empty

theorem FirstFrom.hitsNone {β : Type*} {g : Nat → α → β} (found : FirstFrom V lo hi none) :
    (List.range' lo (hi - lo)).filterMap (fun i => (V i).map (g i)) = [] := by
  rw [List.filterMap_eq_nil_iff]
  intro i inside
  rw [List.mem_range'_1] at inside
  rw [found i inside.1 (by omega),Option.map_none]

theorem FirstFrom.hitsSome {β : Type*} {g : Nat → α → β} {hit : Nat × α} (found : FirstFrom V lo hi (some hit)) :
    (List.range' lo (hi - lo)).filterMap (fun i => (V i).map (g i)) =
      g hit.1 hit.2 :: (List.range' (hit.1 + 1) (hi - (hit.1 + 1))).filterMap (fun i => (V i).map (g i)) := by
  obtain ⟨low,high,value,before⟩ := found
  have empty : FirstFrom V lo hit.1 none := before
  rw [show hi - lo = (hit.1 - lo) + ((hi - (hit.1 + 1)) + 1) by omega,← List.range'_append_1,List.filterMap_append,
    show lo + (hit.1 - lo) = hit.1 by omega,List.range'_succ,List.filterMap_cons,value,Option.map_some]
  rw [empty.hitsNone,List.nil_append]

end Rules

end Search
