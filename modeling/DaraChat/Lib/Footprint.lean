import Mathlib.Data.Set.Lattice
import Mathlib.Order.CompletePartialOrder

set_option autoImplicit false

/-! # Operations with a footprint

A state is observed through keys: `obs s k` is what is seen of it at the key `k`. An operation
answers and changes the state. Its footprint, a set of keys that may depend on the state, bounds
what it writes and what it reads: outside the footprint nothing changes (`frame`), and in two
states that agree on it the operation does the same (`agree`). Two operations whose footprints are
disjoint in a state commute there, in their answers and in all that is seen of the states they
lead to (`Local.commute`).
-/

namespace Footprint

variable {σ κ α₁ α₂ : Type*} {β : κ → Type*}

/-- The operation `op` has the footprint `foot`, in the states that satisfy `I`. -/
structure Local {α : Type*} (obs : σ → (k : κ) → β k) (I : σ → Prop) (op : σ → α × σ)
    (foot : σ → Set κ) : Prop where
  keeps : ∀ {s}, I s → I (op s).2
  frame : ∀ {s k}, I s → k ∉ foot s → obs (op s).2 k = obs s k
  agree : ∀ {s s'}, I s → I s' → (∀ k ∈ foot s, obs s' k = obs s k) →
    foot s' = foot s ∧ (op s').1 = (op s).1 ∧ ∀ k ∈ foot s, obs (op s').2 k = obs (op s).2 k

variable {obs : σ → (k : κ) → β k} {I : σ → Prop} {op₁ : σ → α₁ × σ} {op₂ : σ → α₂ × σ}
  {foot₁ foot₂ : σ → Set κ} {s : σ}

/-- After an operation with a disjoint footprint, an operation does what it would have done. -/
theorem Local.after (h₁ : Local obs I op₁ foot₁) (h₂ : Local obs I op₂ foot₂) (hs : I s)
    (hdisjoint : Disjoint (foot₁ s) (foot₂ s)) :
    foot₁ (op₂ s).2 = foot₁ s ∧ (op₁ (op₂ s).2).1 = (op₁ s).1 ∧
      ∀ k ∈ foot₁ s, obs (op₁ (op₂ s).2).2 k = obs (op₁ s).2 k :=
  h₁.agree hs (h₂.keeps hs) fun _ hk => h₂.frame hs (Set.disjoint_left.mp hdisjoint hk)

/-- **Operations with disjoint footprints commute.** -/
theorem Local.commute (h₁ : Local obs I op₁ foot₁) (h₂ : Local obs I op₂ foot₂) (hs : I s)
    (hdisjoint : Disjoint (foot₁ s) (foot₂ s)) :
    (op₁ (op₂ s).2).1 = (op₁ s).1 ∧ (op₂ (op₁ s).2).1 = (op₂ s).1 ∧
      ∀ k, obs (op₂ (op₁ s).2).2 k = obs (op₁ (op₂ s).2).2 k := by
  obtain ⟨hfoot₁, hanswer₁, hobs₁⟩ := h₁.after h₂ hs hdisjoint
  obtain ⟨hfoot₂, hanswer₂, hobs₂⟩ := h₂.after h₁ hs hdisjoint.symm
  refine ⟨hanswer₁, hanswer₂, fun k => ?_⟩
  by_cases hk₁ : k ∈ foot₁ s
  · -- the first operation has written here, the second does not
    have hk₂ : k ∉ foot₂ (op₁ s).2 := by
      rw [hfoot₂]
      exact Set.disjoint_left.mp hdisjoint hk₁
    rw [hobs₁ k hk₁, h₂.frame (h₁.keeps hs) hk₂]
  · have hk₁' : k ∉ foot₁ (op₂ s).2 := by rwa [hfoot₁]
    rw [h₁.frame (h₂.keeps hs) hk₁']
    by_cases hk₂ : k ∈ foot₂ s
    · exact hobs₂ k hk₂
    · have hk₂' : k ∉ foot₂ (op₁ s).2 := by rwa [hfoot₂]
      rw [h₂.frame (h₁.keeps hs) hk₂', h₁.frame hs hk₁, h₂.frame hs hk₂]

end Footprint
