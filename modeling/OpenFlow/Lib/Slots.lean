import Mathlib

/-! Arrays of slots indexed by `Nat`, each empty or holding one element, and one pass over some of their
indices that may empty, replace or keep each element it meets and reports what it did. -/
namespace Slots

variable {α β : Type*}

def sweep (act : α → Option (Option α × β)) : List Nat → (Nat → Option α) → (Nat → Option α) × List β
  | [], bs => (bs,[])
  | i :: is, bs =>
    match (bs i).bind act with
    | some (after,out) =>
      let rest := sweep act is (Function.update bs i after)
      (rest.1,out :: rest.2)
    | none => sweep act is bs

/- What a visited slot holds after the pass. -/
def settled (act : α → Option (Option α × β)) (slot : Option α) : Option α :=
  match slot.bind act with
  | some (after,_) => after
  | none => slot

/- The elements of the slots at `indices`, in that order. -/
def contents (indices : List Nat) (bs : Nat → Option α) : List α := indices.filterMap bs

theorem updateHolds {Q : Nat → α → Prop} {bs : Nat → Option α} (holds : ∀ i x, bs i = some x → Q i x)
    {j : Nat} {y : α} (new : Q j y) : ∀ i x, Function.update bs j (some y) i = some x → Q i x := by
  intro i x slot
  by_cases here : i = j
  · subst here
    simp only [Function.update_self,Option.some.injEq] at slot
    exact slot ▸ new
  · rw [Function.update_of_ne here] at slot
    exact holds i x slot

theorem anyContents (p : α → Bool) (bs : Nat → Option α) :
    ∀ is : List Nat, (is.any fun i => (bs i).any p) = (contents is bs).any p
  | [] => rfl
  | i :: is => by
    cases slot : bs i with
    | none => simp [contents,slot,anyContents p bs is]
    | some x => simp [contents,slot,anyContents p bs is]

theorem contentsUpdateOutside {is : List Nat} {j : Nat} (out : j ∉ is) (bs : Nat → Option α) (v : Option α) :
    contents is (Function.update bs j v) = contents is bs :=
  List.filterMap_congr fun i mem => by
    have other : i ≠ j := fun same => out (same ▸ mem)
    exact Function.update_of_ne other v bs

theorem contentsFill {bs : Nat → Option α} {j : Nat} (empty : bs j = none) (y : α) :
    ∀ {is : List Nat}, is.Nodup → j ∈ is → (contents is (Function.update bs j (some y))).Perm (y :: contents is bs)
  | [], _, mem => by cases mem
  | i :: is, nodup, mem => by
    obtain ⟨fresh,tail⟩ := List.nodup_cons.mp nodup
    by_cases here : i = j
    · subst here
      have rest := contentsUpdateOutside fresh bs (some y)
      simp only [contents] at rest ⊢
      simp [empty,rest]
    · have ih := contentsFill empty y tail ((List.mem_cons.mp mem).resolve_left fun same => here same.symm)
      simp only [contents] at ih ⊢
      cases slot : bs i with
      | none => simpa [Function.update_of_ne here,slot] using ih
      | some x =>
        simp only [List.filterMap_cons,Function.update_of_ne here,slot]
        exact (ih.cons x).trans (List.Perm.swap y x _)

section Sweep
variable {act : α → Option (Option α × β)}

theorem sweepSlots {is : List Nat} (nodup : is.Nodup) (bs : Nat → Option α) :
    (sweep act is bs).1 = fun i => if i ∈ is then settled act (bs i) else bs i := by
  induction is generalizing bs with
  | nil => rfl
  | cons j is ih =>
    obtain ⟨fresh,tail⟩ := List.nodup_cons.mp nodup
    funext i
    by_cases ij : i = j
    · -- slot `j` is visited once, here; the rest of the pass leaves it alone
      subst ij
      cases h : (bs i).bind act with
      | none => simp [sweep,h,ih tail,fresh,settled]
      | some r => simp [sweep,h,ih tail,fresh,settled]
    · cases h : (bs j).bind act with
      | none => simp [sweep,h,ih tail,ij]
      | some r => simp [sweep,h,ih tail,ij]

theorem sweepReport {is : List Nat} (nodup : is.Nodup) (bs : Nat → Option α) :
    (sweep act is bs).2 = is.filterMap fun i => ((bs i).bind act).map Prod.snd := by
  induction is generalizing bs with
  | nil => rfl
  | cons j is ih =>
    obtain ⟨fresh,tail⟩ := List.nodup_cons.mp nodup
    have untouched : ∀ after, is.filterMap (fun i => ((Function.update bs j after i).bind act).map Prod.snd) =
        is.filterMap fun i => ((bs i).bind act).map Prod.snd := by
      intro after
      refine List.filterMap_congr fun i mem => ?_
      have ne : i ≠ j := fun same => fresh (same ▸ mem)
      simp [Function.update_of_ne ne]
    cases h : (bs j).bind act with
    | none =>
      simp only [sweep,h]
      rw [ih tail,List.filterMap_cons,h]
      rfl
    | some r =>
      simp only [sweep,h]
      rw [ih tail,untouched,List.filterMap_cons,h]
      rfl

theorem sweepSlotFrom {R : α → α → Prop} (refl : ∀ x, R x x)
    (step : ∀ x after out y, act x = some (after,out) → after = some y → R x y)
    {is : List Nat} (nodup : is.Nodup) (bs : Nat → Option α) {i : Nat} {y : α}
    (slot : (sweep act is bs).1 i = some y) : ∃ x, bs i = some x ∧ R x y := by
  rw [sweepSlots nodup] at slot
  by_cases mem : i ∈ is
  · simp only [mem,if_true,settled] at slot
    cases old : bs i with
    | none => simp [old] at slot
    | some x =>
      refine ⟨x,rfl,?_⟩
      cases acted : act x with
      | none =>
        simp only [old,Option.bind_some,acted,Option.some.injEq] at slot
        exact slot ▸ refl x
      | some r =>
        simp only [old,Option.bind_some,acted] at slot
        exact step x r.1 r.2 y acted slot
  · simp only [mem,if_false] at slot
    exact ⟨y,slot,refl y⟩

theorem settledOfUnselected {is : List Nat} {bs : Nat → Option α}
    (outside : ∀ i, i ∉ is → (bs i).bind act = none) :
    (fun i => if i ∈ is then settled act (bs i) else bs i) = fun i => settled act (bs i) := by
  funext i
  by_cases mem : i ∈ is
  · simp [mem]
  · simp [mem,settled,outside i mem]

end Sweep

/- The pass that picks the elements `sel` accepts, reports them, and puts `upd x` in place of each picked `x`.
-/
def pick (sel : α → Bool) (upd : α → Option α) (x : α) : Option (Option α × α) :=
  if sel x then some (upd x,x) else none

section Pick
variable (sel : α → Bool) (upd : α → Option α)

theorem pickPut : ∀ x after out y, pick sel upd x = some (after,out) → after = some y → upd x = some y := by
  intro x after out y act put
  unfold pick at act
  split at act
  · cases act
    exact put
  · cases act

theorem settledPick (slot : Option α) :
    settled (pick sel upd) slot = slot.bind fun x => if sel x then upd x else some x := by
  cases slot with
  | none => rfl
  | some x => by_cases hit : sel x <;> simp [settled,pick,hit]

theorem pickReport (slot : Option α) : (slot.bind (pick sel upd)).map Prod.snd = slot.filter sel := by
  cases slot with
  | none => rfl
  | some x => by_cases hit : sel x <;> simp [pick,hit,Option.filter]

theorem sweepPickReport {is : List Nat} (nodup : is.Nodup) (bs : Nat → Option α) :
    (sweep (pick sel upd) is bs).2 = (contents is bs).filter sel := by
  rw [sweepReport nodup,contents,List.filter_filterMap]
  simp only [pickReport]

theorem contentsSettledPick (all : List Nat) (bs : Nat → Option α) :
    contents all (fun i => settled (pick sel upd) (bs i)) =
      (contents all bs).filterMap fun x => if sel x then upd x else some x := by
  simp only [contents,settledPick,List.filterMap_filterMap]

theorem contentsSettledDrop (all : List Nat) (bs : Nat → Option α) :
    contents all (fun i => settled (pick sel fun _ => none) (bs i)) = (contents all bs).filter fun x => !sel x := by
  rw [contentsSettledPick,← List.filterMap_eq_filter]
  congr 1
  funext x
  by_cases hit : sel x <;> simp [hit,Option.guard]

theorem contentsSettledMap (g : α → α) (all : List Nat) (bs : Nat → Option α) :
    contents all (fun i => settled (pick sel fun x => some (g x)) (bs i)) =
      (contents all bs).map fun x => if sel x then g x else x := by
  rw [contentsSettledPick,← List.filterMap_eq_map]
  congr 1
  funext x
  by_cases hit : sel x <;> simp [hit]

theorem contentsFilterSublist {is all : List Nat} (sub : is.Sublist all) (nodup : all.Nodup)
    (bs : Nat → Option α) (covered : ∀ i ∈ all, ((bs i).filter sel).isSome → i ∈ is) :
    (contents is bs).filter sel = (contents all bs).filter sel := by
  induction sub with
  | slnil => rfl
  | cons j sub ih =>
    rename_i is all
    obtain ⟨fresh,nodup⟩ := List.nodup_cons.mp nodup
    have skipped : ((bs j).filter sel).isSome = false := by
      by_contra picked
      exact fresh (sub.subset (covered j List.mem_cons_self (by simpa using picked)))
    have rest := ih nodup fun i mem => covered i (List.mem_cons_of_mem j mem)
    cases slot : bs j with
    | none => simp [contents,slot] at rest ⊢; exact rest
    | some x =>
      have drop : sel x = false := by simpa [slot,Option.filter] using skipped
      simp [contents,slot,drop] at rest ⊢
      exact rest
  | cons_cons j sub ih =>
    obtain ⟨fresh,nodup⟩ := List.nodup_cons.mp nodup
    have rest := ih nodup fun i mem picked => by
      rcases List.mem_cons.mp (covered i (List.mem_cons_of_mem j mem) picked) with same | visited
      · subst same
        exact absurd mem fresh
      · exact visited
    simp only [contents,List.filterMap_cons] at rest ⊢
    cases bs j with
    | none => exact rest
    | some x => simp only [List.filter_cons,rest]

end Pick

end Slots
