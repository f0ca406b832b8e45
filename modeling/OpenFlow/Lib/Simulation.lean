import Mathlib

/-! Lockstep simulation of two computations that may fail. -/
namespace Simulation

variable {ε α β γ δ : Type*}

inductive ExceptRel (R : α → β → Prop) : Except ε α → Except ε β → Prop
  | error (e : ε) : ExceptRel R (.error e) (.error e)
  | ok {a : α} {b : β} : R a b → ExceptRel R (.ok a) (.ok b)

namespace ExceptRel
variable {R : α → β → Prop}

theorem bind {S : γ → δ → Prop} {x : Except ε α} {y : Except ε β} (rel : ExceptRel R x y)
    {f : α → Except ε γ} {g : β → Except ε δ} (step : ∀ a b, R a b → ExceptRel S (f a) (g b)) :
    ExceptRel S (x.bind f) (y.bind g) := by
  cases rel with
  | error e => exact .error e
  | ok related => exact step _ _ related

theorem map {x : Except ε α} {y : Except ε β} (rel : ExceptRel R x y) {F : α → γ} {G : β → γ}
    (agree : ∀ a b, R a b → F a = G b) : x.map F = y.map G := by
  cases rel with
  | error e => rfl
  | ok related => exact congrArg Except.ok (agree _ _ related)

theorem imp {S : α → β → Prop} {x : Except ε α} {y : Except ε β} (rel : ExceptRel R x y)
    (weaker : ∀ a b, R a b → S a b) : ExceptRel S x y := by
  cases rel with
  | error e => exact .error e
  | ok related => exact .ok (weaker _ _ related)

end ExceptRel

theorem mapOk {x : Except ε α} {F : α → β} {b : β} (read : x.map F = .ok b) : ∃ a, x = .ok a ∧ F a = b := by
  cases x with
  | error e => cases read
  | ok a =>
    cases read
    exact ⟨a,rfl,rfl⟩

theorem foldlMRel {R : α → β → Prop} {f : α → γ → Except ε α} {g : β → γ → Except ε β}
    (step : ∀ a b x, R a b → ExceptRel R (f a x) (g b x)) :
    ∀ (xs : List γ) {a : α} {b : β}, R a b → ExceptRel R (xs.foldlM f a) (xs.foldlM g b)
  | [], _, _, related => .ok related
  | x :: xs, _, _, related => by
    simp only [List.foldlM_cons]
    exact ExceptRel.bind (step _ _ x related) fun _ _ next => foldlMRel step xs next

theorem foldlMHistory (Inv : List γ → α → Prop) {f : α → γ → Except ε α}
    (keep : ∀ done a x, Inv done a → SatisfiesM (Inv (done ++ [x])) (f a x)) :
    ∀ (xs done : List γ) {a : α}, Inv done a → SatisfiesM (Inv (done ++ xs)) (xs.foldlM f a)
  | [], done, _, inv => by
    rw [List.append_nil]
    exact SatisfiesM.pure inv
  | x :: xs, done, _, inv => by
    rw [List.foldlM_cons,← List.singleton_append,← List.append_assoc]
    exact SatisfiesM.bind (keep done _ x inv) fun _ next => foldlMHistory Inv keep xs (done ++ [x]) next

end Simulation
