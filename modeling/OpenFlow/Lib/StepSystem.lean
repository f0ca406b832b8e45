import Mathlib

/-! Deterministic systems driven by a list of operations. -/
namespace StepSystem

variable {σ α : Type*}

def run (step : σ → α → σ) (s : σ) (ops : List α) : σ := ops.foldl step s

@[simp] theorem runNil (step : σ → α → σ) (s : σ) : run step s [] = s := rfl

@[simp] theorem runCons (step : σ → α → σ) (s : σ) (a : α) (ops : List α) :
    run step s (a :: ops) = run step (step s a) ops := rfl

theorem runAppend (step : σ → α → σ) (s : σ) (xs ys : List α) :
    run step s (xs ++ ys) = run step (run step s xs) ys := by
  simp [run, List.foldl_append]

inductive Reachable (step : σ → α → σ) (init : σ) : σ → Prop where
  | init : Reachable step init init
  | step {s : σ} (a : α) (reach : Reachable step init s) : Reachable step init (step s a)

theorem reachableRun (step : σ → α → σ) (init : σ) (ops : List α) :
    Reachable step init (run step init ops) := by
  induction ops using List.reverseRecOn with
  | nil => exact .init
  | append_singleton ops a ih =>
    rw [runAppend]
    exact .step a ih

theorem reachableIffRun {step : σ → α → σ} {init s : σ} :
    Reachable step init s ↔ ∃ ops, run step init ops = s := by
  constructor
  · intro reach
    induction reach with
    | init => exact ⟨[],rfl⟩
    | step a _ ih =>
      obtain ⟨ops,rfl⟩ := ih
      exact ⟨ops ++ [a],by simp [runAppend]⟩
  · rintro ⟨ops,rfl⟩
    exact reachableRun step init ops

theorem Reachable.invariant {step : σ → α → σ} {init : σ} {Inv : σ → Prop}
    (base : Inv init) (keep : ∀ s a, Inv s → Inv (step s a)) {s : σ}
    (reach : Reachable step init s) : Inv s := by
  induction reach with
  | init => exact base
  | step a _ ih => exact keep _ a ih

theorem runInvariant {step : σ → α → σ} {Inv : σ → Prop} {allowed : α → Prop}
    (keep : ∀ s a, allowed a → Inv s → Inv (step s a)) (ops : List α) :
    ∀ {s : σ}, (∀ a ∈ ops, allowed a) → Inv s → Inv (run step s ops) := by
  induction ops with
  | nil =>
    intro s _ inv
    exact inv
  | cons a ops ih =>
    intro s all inv
    rw [runCons]
    exact ih (fun b mem => all b (List.mem_cons_of_mem a mem)) (keep s a (all a List.mem_cons_self) inv)

section Answers
variable {β : Type*}

/- A step that also answers each operation: the operations of a run paired with their answers, and the state
the run reaches. -/
def answers (step : σ → α → β × σ) : σ → List α → List (α × β)
  | _, [] => []
  | s, a :: ops => (a,(step s a).1) :: answers step (step s a).2 ops

def after (step : σ → α → β × σ) (s : σ) (ops : List α) : σ := run (fun s a => (step s a).2) s ops

variable (step : σ → α → β × σ)

@[simp] theorem afterNil (s : σ) : after step s [] = s := rfl

@[simp] theorem afterCons (s : σ) (a : α) (ops : List α) :
    after step s (a :: ops) = after step (step s a).2 ops := rfl

theorem afterAppend (s : σ) (xs ys : List α) : after step s (xs ++ ys) = after step (after step s xs) ys :=
  runAppend _ s xs ys

theorem answersOps (s : σ) (ops : List α) : (answers step s ops).map Prod.fst = ops := by
  induction ops generalizing s with
  | nil => rfl
  | cons a ops ih => simp [answers,ih]

theorem answersLength (s : σ) (ops : List α) : (answers step s ops).length = ops.length := by
  rw [← answersOps step s ops,List.length_map,answersOps]

theorem answersAppend (s : σ) (xs ys : List α) :
    answers step s (xs ++ ys) = answers step s xs ++ answers step (after step s xs) ys := by
  induction xs generalizing s with
  | nil => rfl
  | cons a xs ih => simp [answers,ih]

theorem answersSplit {s : σ} {ops : List α} {pre post : List (α × β)} {e : α × β}
    (split : answers step s ops = pre ++ e :: post) :
    pre = answers step s (pre.map Prod.fst) ∧ e.2 = (step (after step s (pre.map Prod.fst)) e.1).1 ∧
      post = answers step (step (after step s (pre.map Prod.fst)) e.1).2 (post.map Prod.fst) := by
  induction pre generalizing s ops with
  | nil =>
    cases ops with
    | nil => cases split
    | cons a ops =>
      obtain ⟨rfl,rest⟩ := List.cons.inj split
      exact ⟨rfl,rfl,by rw [← rest,answersOps]; rfl⟩
  | cons p pre ih =>
    cases ops with
    | nil => cases split
    | cons a ops =>
      obtain ⟨rfl,rest⟩ := List.cons.inj split
      obtain ⟨before,answer,later⟩ := ih rest
      exact ⟨congrArg _ before,answer,later⟩

theorem answersInvariantOf {I : σ → List (α × β) → Prop} {allowed : α → Prop}
    (keep : ∀ s t a, allowed a → I s t → I (step s a).2 (t ++ [(a,(step s a).1)])) {s : σ} (init : I s []) :
    ∀ ops : List α, (∀ a ∈ ops, allowed a) → I (after step s ops) (answers step s ops) := by
  intro ops
  induction ops using List.reverseRecOn with
  | nil => exact fun _ => init
  | append_singleton ops a ih =>
    intro all
    rw [answersAppend,afterAppend]
    exact keep _ _ a (all a (by simp)) (ih fun b mem => all b (List.mem_append_left _ mem))

theorem answersInvariant {I : σ → List (α × β) → Prop}
    (keep : ∀ s t a, I s t → I (step s a).2 (t ++ [(a,(step s a).1)])) {s : σ} (init : I s []) (ops : List α) :
    I (after step s ops) (answers step s ops) :=
  answersInvariantOf step (fun s t a (_ : True) now => keep s t a now) init ops fun _ _ => trivial

end Answers

end StepSystem
