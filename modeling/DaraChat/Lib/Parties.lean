import Mathlib.Data.List.Pairwise
import Mathlib.Logic.Function.Basic

set_option autoImplicit false

/-! # Parties

What parties are for, without an implementation: everybody is in one party at most, founds one, joins
one that has room, or leaves (`Step`). Nobody is moved by another (`Step.others`), and the members of
a party stay in the order in which they have entered it (`Step.pairwise`).
-/

namespace Parties

variable {ι α : Type*} [DecidableEq ι] [DecidableEq α]

/-- The members of each party. -/
abbrev State (ι α : Type*) := ι → List α

/-- One move of `who`. A switch leaves a party without other members, and joins another. -/
inductive Step (capacity : Nat) (who : α) (P : State ι α) : State ι α → Prop
  | found (g : ι) (hnew : P g = []) (hfree : ∀ g, who ∉ P g) :
      Step capacity who P (Function.update P g [who])
  | join (g : ι) (hparty : P g ≠ []) (hroom : (P g).length < capacity) (hfree : ∀ g, who ∉ P g) :
      Step capacity who P (Function.update P g (P g ++ [who]))
  | leave (g : ι) (hmember : ∀ g', who ∈ P g' ↔ g' = g) :
      Step capacity who P (Function.update P g ((P g).filter (· ≠ who)))
  | switch (g g' : ι) (hsolo : P g = [who]) (honly : ∀ g', who ∈ P g' → g' = g) (hne : g' ≠ g)
      (hparty : P g' ≠ []) (hroom : (P g').length < capacity) :
      Step capacity who P (Function.update (Function.update P g []) g' (P g' ++ [who]))

section Step

variable {capacity : Nat} {who : α} {P P' : State ι α}

/-- **Nobody else is moved.** -/
theorem Step.others (h : Step capacity who P P') {n : α} (hn : n ≠ who) (g : ι) :
    n ∈ P' g ↔ n ∈ P g := by
  cases h with
  | found g₀ hnew hfree =>
      by_cases hg : g = g₀
      · subst hg
        simp [hnew, hn]
      · simp [hg]
  | join g₀ hparty hroom hfree =>
      by_cases hg : g = g₀
      · subst hg
        simp [hn]
      · simp [hg]
  | leave g₀ hmember =>
      by_cases hg : g = g₀
      · subst hg
        simp [hn]
      · simp [hg]
  | switch g₀ g₁ hsolo honly hne hparty hroom =>
      by_cases hg : g = g₁
      · subst hg
        simp [hn]
      · by_cases hg₀ : g = g₀
        · subst hg₀
          simp [hg, hsolo, hn]
        · simp [hg, hg₀]

/-- In each party nobody, or `who` alone, has been added, at the end; the others are in order. -/
theorem Step.shape (h : Step capacity who P P') (g : ι) :
    (P' g).Sublist (P g) ∨ who ∉ P g ∧ P' g = P g ++ [who] := by
  cases h with
  | found g₀ hnew hfree =>
      by_cases hg : g = g₀
      · subst hg
        exact .inr ⟨hfree g, by simp [hnew]⟩
      · exact .inl (by simp [hg])
  | join g₀ hparty hroom hfree =>
      by_cases hg : g = g₀
      · subst hg
        exact .inr ⟨hfree g, by simp⟩
      · exact .inl (by simp [hg])
  | leave g₀ hmember =>
      by_cases hg : g = g₀
      · subst hg
        exact .inl (by simp [List.filter_sublist])
      · exact .inl (by simp [hg])
  | switch g₀ g₁ hsolo honly hne hparty hroom =>
      by_cases hg : g = g₁
      · subst hg
        exact .inr ⟨fun hmem => hne (honly g hmem), by simp⟩
      · refine .inl ?_
        rw [Function.update_of_ne hg]
        by_cases hg₀ : g = g₀
        · subst hg₀
          simp
        · simp [hg₀]

/-- **A move keeps every order by seniority**: those who stay keep their places, and whoever enters
comes after those who are there. -/
theorem Step.pairwise (h : Step capacity who P P') {g : ι} {R R' : α → α → Prop}
    (hordered : (P g).Pairwise R)
    (hstay : ∀ a b, a ∈ P g → b ∈ P g → a ∈ P' g → b ∈ P' g → R a b → R' a b)
    (henter : ∀ a, a ∈ P g → a ∈ P' g → who ∉ P g → who ∈ P' g → R' a who) :
    (P' g).Pairwise R' := by
  rcases h.shape g with hsub | ⟨hnot, heq⟩
  · exact (hordered.sublist hsub).imp_of_mem fun ha hb hR =>
      hstay _ _ (hsub.subset ha) (hsub.subset hb) ha hb hR
  · have hwho : who ∈ P' g := by simp [heq]
    have hold : ∀ {a}, a ∈ P g → a ∈ P' g := fun ha => by simp [heq, ha]
    rw [heq]
    refine List.pairwise_append.mpr ⟨?_, List.pairwise_singleton _ _, fun a ha b hb => ?_⟩
    · exact hordered.imp_of_mem fun ha hb hR => hstay _ _ ha hb (hold ha) (hold hb) hR
    · obtain rfl := List.mem_singleton.mp hb
      exact henter a ha (hold ha) hnot hwho

end Step

end Parties
