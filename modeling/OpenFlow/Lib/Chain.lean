import Mathlib

/-! Singly linked chains in a heap of nodes. -/
namespace Linked

variable {ν : Type*}

inductive Chain (next : ν → Option ν) : Option ν → List ν → Prop where
  | nil : Chain next none []
  | cons {v : ν} {rest : List ν} (tail : Chain next (next v) rest) : Chain next (some v) (v :: rest)

namespace Chain
variable {next next' : ν → Option ν} {head : Option ν} {nodes : List ν}

theorem headEq (chain : Chain next head nodes) : head = nodes.head? := by
  cases chain <;> rfl

theorem unique {nodes' : List ν} (chain : Chain next head nodes) (chain' : Chain next head nodes') :
    nodes = nodes' := by
  induction chain generalizing nodes' with
  | nil => cases chain'; rfl
  | cons tail ih =>
    cases chain' with
    | cons tail' => rw [ih tail']

theorem tail {v : ν} {rest : List ν} (chain : Chain next head (v :: rest)) : Chain next (next v) rest := by
  cases chain with
  | cons tail => exact tail

theorem suffix {pre post : List ν} (chain : Chain next head (pre ++ post)) : Chain next post.head? post := by
  induction pre generalizing head with
  | nil =>
    rw [List.nil_append] at chain
    rw [← chain.headEq]
    exact chain
  | cons v pre ih =>
    cases chain with
    | cons tail => exact ih tail

theorem nodup (chain : Chain next head nodes) : nodes.Nodup := by
  induction chain with
  | nil => exact List.nodup_nil
  | @cons v rest tail ih =>
    refine List.nodup_cons.2 ⟨fun again => ?_,ih⟩
    obtain ⟨pre,post,rfl⟩ := List.append_of_mem again
    have later : Chain next (some v) (v :: post) := tail.suffix
    have whole : Chain next (some v) (v :: (pre ++ v :: post)) := .cons tail
    have lengths := congrArg List.length (later.unique whole)
    simp only [List.length_cons,List.length_append] at lengths
    omega

theorem frame (chain : Chain next head nodes) (same : ∀ v ∈ nodes, next' v = next v) : Chain next' head nodes := by
  induction chain with
  | nil => exact .nil
  | @cons v rest tail ih =>
    refine .cons ?_
    rw [same v List.mem_cons_self]
    exact ih fun u inside => same u (List.mem_cons_of_mem v inside)

variable [DecidableEq ν]

theorem update {u : ν} {link : Option ν} (chain : Chain next head nodes) (outside : u ∉ nodes) :
    Chain (Function.update next u link) head nodes :=
  chain.frame fun v inside => by rw [Function.update_of_ne (ne_of_mem_of_not_mem inside outside)]

theorem push {u : ν} (chain : Chain next head nodes) (outside : u ∉ nodes) :
    Chain (Function.update next u head) (some u) (u :: nodes) := by
  refine .cons ?_
  rw [Function.update_self]
  exact chain.update outside

theorem unlink {pre post : List ν} {p v : ν} (chain : Chain next head (pre ++ p :: v :: post)) :
    Chain (Function.update next p (next v)) head (pre ++ p :: post) := by
  have distinct := chain.nodup
  induction pre generalizing head with
  | nil =>
    cases chain with
    | cons tail =>
      have whole : Chain next (next p) ([] ++ v :: post) := tail
      have from_v : Chain next (some v) (v :: post) := whole.suffix
      cases from_v with
      | cons rest =>
        have outside : p ∉ post := fun inside => by simp_all
        exact .cons (by rw [Function.update_self]; exact rest.update outside)
  | cons u pre ih =>
    cases chain with
    | cons tail =>
      have apart : u ≠ p := fun same => by simp_all
      refine .cons ?_
      rw [Function.update_of_ne apart]
      exact ih tail (List.nodup_cons.1 distinct).2

end Chain

end Linked
