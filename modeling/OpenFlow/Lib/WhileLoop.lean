import Mathlib

/-! A `while` loop given at most `fuel` iterations, and the walk of a cursor over length-prefixed records. -/
namespace WhileLoop

variable {σ τ : Type*}

def run (cond : σ → Bool) (body : σ → σ) : Nat → σ → Option σ
  | 0, _ => none
  | fuel + 1, s => if cond s then run cond body fuel (body s) else some s

/- The loop test holds before each of the first `n` iterations and fails after them. -/
def ExitsAfter (cond : σ → Bool) (body : σ → σ) (s : σ) (n : Nat) : Prop :=
  (∀ k < n, cond (body^[k] s) = true) ∧ cond (body^[n] s) = false

theorem exitsAfterUnique {cond : σ → Bool} {body : σ → σ} {s : σ} {n m : Nat}
    (hn : ExitsAfter cond body s n) (hm : ExitsAfter cond body s m) : n = m := by
  rcases Nat.lt_trichotomy n m with lt | eq | gt
  · have live := hm.1 n lt
    rw [hn.2] at live
    cases live
  · exact eq
  · have live := hn.1 m gt
    rw [hm.2] at live
    cases live

/- The cursor of a walk over records laid end to end: `off` is where the next record starts, `rem` how many
bytes are left, `lenAt off` the record's length. -/
structure Cursor where
  off : Nat
  rem : Nat
  deriving DecidableEq, Repr

def Cursor.advance (lenAt : Nat → Nat) (c : Cursor) : Cursor :=
  ⟨c.off + lenAt c.off,c.rem - lenAt c.off⟩

def Cursor.live (c : Cursor) : Bool := decide (0 < c.rem)

/- `Tiles lenAt off rem offs`: records of positive length, starting at the offsets `offs`, cover `[off, off +
rem)` exactly. -/
inductive Tiles (lenAt : Nat → Nat) : Nat → Nat → List Nat → Prop where
  | done (off : Nat) : Tiles lenAt off 0 []
  | next {off rem : Nat} {offs : List Nat} (pos : 0 < lenAt off) (fits : lenAt off ≤ rem)
      (rest : Tiles lenAt (off + lenAt off) (rem - lenAt off) offs) : Tiles lenAt off rem (off :: offs)

variable {lenAt : Nat → Nat}

theorem tilesWithin {off rem : Nat} {offs : List Nat} (tiles : Tiles lenAt off rem offs) :
    ∀ o ∈ offs, off ≤ o ∧ 0 < lenAt o ∧ o + lenAt o ≤ off + rem := by
  induction tiles with
  | done off => simp
  | @next off rem offs pos fits rest ih =>
    intro o mem
    rcases List.mem_cons.mp mem with rfl | inner
    · exact ⟨Nat.le_refl o,pos,by omega⟩
    · have h := ih o inner
      exact ⟨by omega,h.2.1,by omega⟩

theorem tilesSum {off rem : Nat} {offs : List Nat} (tiles : Tiles lenAt off rem offs) :
    (offs.map lenAt).sum = rem := by
  induction tiles with
  | done off => rfl
  | @next off rem offs pos fits rest ih =>
    rw [List.map_cons,List.sum_cons,ih]
    omega

theorem tilesLengthLe {off rem : Nat} {offs : List Nat} (tiles : Tiles lenAt off rem offs) :
    offs.length ≤ rem := by
  induction tiles with
  | done off => simp
  | next pos fits rest ih => simp; omega

/- A loop each of whose passes either returns (`.inl r`) or goes on from a new state (`.inr s`), given at most
`fuel` passes: the shape of a C loop with `return`s in its body. -/
section Passes
variable {ρ : Type*}

def passes (pass : σ → ρ ⊕ σ) : Nat → σ → Option ρ
  | 0, _ => none
  | fuel + 1, s =>
    match pass s with
    | .inl r => some r
    | .inr s => passes pass fuel s

variable {pass : σ → ρ ⊕ σ}

theorem passesReturn {fuel : Nat} {s : σ} {r : ρ} (ret : pass s = .inl r) : passes pass (fuel + 1) s = some r := by
  simp [passes,ret]

theorem passesGoOn {fuel : Nat} {s s' : σ} (next : pass s = .inr s') : passes pass (fuel + 1) s = passes pass fuel s' := by
  simp [passes,next]

theorem passesReturns {measure : σ → Nat} (falls : ∀ s s', pass s = .inr s' → measure s' < measure s) :
    ∀ {fuel : Nat} {s : σ}, measure s < fuel → ∃ r, passes pass fuel s = some r := by
  intro fuel
  induction fuel with
  | zero => intro s enough; omega
  | succ fuel ih =>
    intro s enough
    cases next : pass s with
    | inl r => exact ⟨r,passesReturn next⟩
    | inr s' =>
      rw [passesGoOn next]
      exact ih (by have := falls s s' next; omega)

theorem passesInvariant {I : σ → Prop} {Q : ρ → Prop} (keep : ∀ s s', I s → pass s = .inr s' → I s')
    (ret : ∀ s r, I s → pass s = .inl r → Q r) :
    ∀ {fuel : Nat} {s : σ} {r : ρ}, I s → passes pass fuel s = some r → Q r := by
  intro fuel
  induction fuel with
  | zero => intro s r _ none; cases none
  | succ fuel ih =>
    intro s r inv done
    cases next : pass s with
    | inl r' =>
      rw [passesReturn next] at done
      cases Option.some.inj done
      exact ret s _ inv next
    | inr s' =>
      rw [passesGoOn next] at done
      exact ih (keep s s' inv next) done

end Passes

end WhileLoop
