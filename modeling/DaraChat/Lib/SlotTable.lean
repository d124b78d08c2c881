import Mathlib.Data.Finset.Dedup
import Mathlib.Data.Finset.Erase
import Mathlib.Data.Finset.Insert
import Mathlib.Data.List.Basic
import Mathlib.Data.List.Nodup

set_option autoImplicit false

/-! # First-fit slot tables

A table is a list of slots of fixed length, each free (`none`) or holding a key. `store` scans
from the front and stops at the first slot that is free or holds the key; `release` frees the
first slot whose key satisfies a predicate.

Such a table is meant to be a set of keys with a capacity. It is one as long as no key is
stored while a free slot stands before the slot that holds it already (`holeBefore`): then
keys stay distinct and the table holds a set (`Holds`) into which `store` inserts (`Holds.store`)
and from which `release` of a key erases (`Holds.release`). With a hole before it the key is
stored twice, and keys are no longer distinct (`not_nodup_store`).
-/

namespace SlotTable

variable {κ : Type*}

/-! ## Tables -/

/-- The keys a table holds, in slot order. -/
def keys (tbl : List (Option κ)) : List κ := tbl.filterMap id

@[simp] theorem keys_nil : keys ([] : List (Option κ)) = [] := rfl

@[simp] theorem keys_none_cons (tbl : List (Option κ)) : keys (none :: tbl) = keys tbl := rfl

@[simp] theorem keys_some_cons (k : κ) (tbl : List (Option κ)) :
    keys (some k :: tbl) = k :: keys tbl := rfl

@[simp] theorem keys_append (a b : List (Option κ)) : keys (a ++ b) = keys a ++ keys b := by
  simp [keys]

@[simp] theorem keys_map_some (l : List κ) : keys (l.map some) = l := by
  simp [keys, List.filterMap_map]

/-- Store `k` in the first slot that is free or holds it; `none` when there is no such slot. -/
def store [DecidableEq κ] (k : κ) : List (Option κ) → Option (List (Option κ))
  | [] => none
  | none :: tbl => some (some k :: tbl)
  | some j :: tbl => if j = k then some (some j :: tbl) else (store k tbl).map (some j :: ·)

/-- Free the first slot whose key satisfies `p`; the result is that key and the table. -/
def release (p : κ → Bool) : List (Option κ) → Option (κ × List (Option κ))
  | [] => none
  | none :: tbl => (release p tbl).map fun r => (r.1, none :: r.2)
  | some j :: tbl =>
      if p j then some (j, none :: tbl) else (release p tbl).map fun r => (r.1, some j :: r.2)

/-- The number of free slots. -/
def free (tbl : List (Option κ)) : ℕ := tbl.countP Option.isNone

theorem mem_of_free_pos {tbl : List (Option κ)} (h : 0 < free tbl) : none ∈ tbl := by
  obtain ⟨slot, hslot, hnone⟩ := List.countP_pos_iff.mp h
  rwa [← Option.isNone_iff_eq_none.mp hnone]

/-- A table with fewer keys than slots has a free slot. -/
theorem mem_of_length_keys {tbl : List (Option κ)} (h : (keys tbl).length < tbl.length) :
    none ∈ tbl := by
  by_contra hnone
  have hall : ∀ slot ∈ tbl, slot.isSome = true := fun slot hslot =>
    Option.isSome_iff_ne_none.mpr fun heq => hnone (heq ▸ hslot)
  have hlength : (keys tbl).length = tbl.length :=
    List.length_filterMap_eq_countP.trans (List.countP_eq_length.mpr hall)
  omega

theorem free_replicate (n : ℕ) : free (List.replicate n (none : Option κ)) = n := by
  rw [free, List.countP_replicate]
  rfl

/-- A free slot stands before a slot that holds `k`. -/
def holeBefore [DecidableEq κ] (k : κ) : List (Option κ) → Bool
  | [] => false
  | none :: tbl => decide (k ∈ keys tbl)
  | some _ :: tbl => holeBefore k tbl

/-! ## Storing -/

section Store

variable [DecidableEq κ] {k : κ} {tbl tbl' : List (Option κ)}

/-- **What `store` does.** Either the key stands before every free slot and the table stays as
it is, or the key takes the first free slot. -/
theorem store_cases (h : store k tbl = some tbl') :
    (tbl' = tbl ∧ ∃ (pre : List κ) (post : List (Option κ)), k ∉ pre ∧
        tbl = pre.map some ++ some k :: post) ∨
      ∃ (pre : List κ) (post : List (Option κ)), k ∉ pre ∧ tbl = pre.map some ++ none :: post ∧
        tbl' = pre.map some ++ some k :: post := by
  induction tbl generalizing tbl' with
  | nil => simp [store] at h
  | cons slot tbl ih =>
      cases slot with
      | none =>
          rw [store, Option.some.injEq] at h
          exact Or.inr ⟨[], tbl, List.not_mem_nil, rfl, h.symm⟩
      | some j =>
          by_cases hj : j = k
          · rw [store, if_pos hj, Option.some.injEq] at h
            exact Or.inl ⟨h.symm, [], tbl, List.not_mem_nil, by rw [hj]; rfl⟩
          -- neither free nor `k`: the search goes on
          · rw [store, if_neg hj] at h
            obtain ⟨rest, hrest, rfl⟩ := Option.map_eq_some_iff.mp h
            have hk : ∀ pre : List κ, k ∉ pre → k ∉ j :: pre := fun pre hpre hmem =>
              (List.mem_cons.mp hmem).elim (fun e => hj e.symm) hpre
            rcases ih hrest with ⟨rfl, pre, post, hpre, heq⟩ | ⟨pre, post, hpre, heq, heq'⟩
            · exact Or.inl ⟨rfl, j :: pre, post, hk pre hpre, by rw [heq]; rfl⟩
            · exact Or.inr ⟨j :: pre, post, hk pre hpre, by rw [heq]; rfl, by rw [heq']; rfl⟩

theorem holeBefore_map_some_append (k : κ) (pre : List κ) (tbl : List (Option κ)) :
    holeBefore k (pre.map some ++ tbl) = holeBefore k tbl := by
  induction pre with
  | nil => rfl
  | cons j pre ih => exact ih

theorem mem_keys_of_holeBefore (h : holeBefore k tbl = true) : k ∈ keys tbl := by
  induction tbl with
  | nil => exact absurd h Bool.false_ne_true
  | cons slot tbl ih =>
      cases slot with
      | none => simpa [holeBefore] using h
      | some j => exact List.mem_cons_of_mem _ (ih h)

theorem free_of_holeBefore (h : holeBefore k tbl = true) : none ∈ tbl := by
  induction tbl with
  | nil => exact absurd h Bool.false_ne_true
  | cons slot tbl ih =>
      cases slot with
      | none => exact List.mem_cons_self
      | some j => exact List.mem_cons_of_mem _ (ih h)

theorem length_store (h : store k tbl = some tbl') : tbl'.length = tbl.length := by
  rcases store_cases h with ⟨rfl, -⟩ | ⟨pre, post, -, rfl, rfl⟩
  · rfl
  · simp

/-- A table with a free slot takes every key. -/
theorem store_ne_none_of_free (h : none ∈ tbl) : store k tbl ≠ none := by
  induction tbl with
  | nil => cases h
  | cons slot tbl ih =>
      cases slot with
      | none => simp [store]
      | some j =>
          by_cases hj : j = k
          · simp [store, hj]
          · have hmem : none ∈ tbl := by simpa using h
            simpa [store, hj] using ih hmem

/-- A key is stored in a free slot or held already. -/
theorem free_or_mem_of_store (h : store k tbl = some tbl') : none ∈ tbl ∨ k ∈ keys tbl := by
  rcases store_cases h with ⟨rfl, pre, post, -, rfl⟩ | ⟨pre, post, -, rfl, -⟩
  · exact Or.inr (by simp)
  · exact Or.inl (by simp)

/-- Storing takes one free slot at most. -/
theorem free_store (h : store k tbl = some tbl') : free tbl ≤ free tbl' + 1 := by
  rcases store_cases h with ⟨rfl, -⟩ | ⟨pre, post, -, rfl, rfl⟩
  · omega
  · simp [free, Nat.add_assoc]

/-- Storing inserts. -/
theorem mem_keys_store (h : store k tbl = some tbl') {x : κ} :
    x ∈ keys tbl' ↔ x = k ∨ x ∈ keys tbl := by
  rcases store_cases h with ⟨rfl, pre, post, -, rfl⟩ | ⟨pre, post, -, rfl, rfl⟩
  · refine ⟨Or.inr, fun hx => hx.elim (fun e => ?_) id⟩
    simp [e]
  · simp only [keys_append, keys_map_some, keys_some_cons, keys_none_cons, List.mem_append,
      List.mem_cons]
    tauto

/-- Without a hole before the key, storing keeps the keys distinct. -/
theorem nodup_store (h : store k tbl = some tbl') (hnd : (keys tbl).Nodup)
    (hhole : holeBefore k tbl = false) : (keys tbl').Nodup := by
  rcases store_cases h with ⟨rfl, -⟩ | ⟨pre, post, hpre, rfl, rfl⟩
  · exact hnd
  · rw [holeBefore_map_some_append] at hhole
    have hpost : k ∉ keys post := by simpa [holeBefore] using hhole
    simp only [keys_append, keys_map_some, keys_none_cons, keys_some_cons] at hnd ⊢
    rw [List.nodup_middle, List.nodup_cons]
    refine ⟨fun hmem => ?_, hnd⟩
    exact (List.mem_append.mp hmem).elim hpre hpost

/-- With a hole before the key, storing puts the key into a second slot. -/
theorem not_nodup_store (h : store k tbl = some tbl') (hhole : holeBefore k tbl = true) :
    ¬ (keys tbl').Nodup := by
  intro hnd
  rcases store_cases h with ⟨rfl, pre, post, -, rfl⟩ | ⟨pre, post, -, rfl, rfl⟩
  · rw [holeBefore_map_some_append] at hhole
    have hpost : k ∈ keys post := @mem_keys_of_holeBefore _ _ k post hhole
    simp only [keys_append, keys_map_some, keys_some_cons] at hnd
    rw [List.nodup_middle, List.nodup_cons] at hnd
    exact hnd.1 (List.mem_append_right _ hpost)
  · rw [holeBefore_map_some_append] at hhole
    have hpost : k ∈ keys post := by simpa [holeBefore] using hhole
    simp only [keys_append, keys_map_some, keys_some_cons] at hnd
    rw [List.nodup_middle, List.nodup_cons] at hnd
    exact hnd.1 (List.mem_append_right _ hpost)

/-- Storing a key leaves the held keys of another kind as they are. -/
theorem filter_keys_store_of_neg (h : store k tbl = some tbl') {p : κ → Bool} (hp : p k = false) :
    (keys tbl').filter p = (keys tbl).filter p := by
  rcases store_cases h with ⟨rfl, -⟩ | ⟨pre, post, -, rfl, rfl⟩
  · rfl
  · simp [hp]

/-- The first key of a kind is the only one. -/
theorem filter_keys_store_of_pos (h : store k tbl = some tbl') {p : κ → Bool} (hp : p k = true)
    (hnone : (keys tbl).filter p = []) : (keys tbl').filter p = [k] := by
  rcases store_cases h with ⟨rfl, pre, post, -, rfl⟩ | ⟨pre, post, -, rfl, rfl⟩
  · simp [hp] at hnone
  · simp only [keys_append, keys_map_some, keys_none_cons, List.filter_append,
      List.append_eq_nil_iff] at hnone
    simp [hp, hnone]

/-- At most one key more is held. -/
theorem keys_store_subperm (h : store k tbl = some tbl') : (keys tbl').Subperm (k :: keys tbl) := by
  rcases store_cases h with ⟨rfl, -⟩ | ⟨pre, post, -, rfl, rfl⟩
  · exact (List.sublist_cons_self k _).subperm
  · simp only [keys_append, keys_map_some, keys_some_cons, keys_none_cons]
    exact List.perm_middle.subperm

/-- A key the table does not hold has no hole before it. -/
theorem holeBefore_of_notMem (h : k ∉ keys tbl) : holeBefore k tbl = false := by
  by_contra hne
  rw [Bool.not_eq_false] at hne
  exact h (mem_keys_of_holeBefore hne)

end Store

/-! ## Releasing -/

section Release

variable {p : κ → Bool} {k : κ} {tbl tbl' : List (Option κ)}

/-- **What `release` does.** It frees the first slot whose key satisfies `p`. -/
theorem release_cases (h : release p tbl = some (k, tbl')) :
    ∃ pre post, tbl = pre ++ some k :: post ∧ p k = true ∧ (∀ j ∈ keys pre, p j = false) ∧
      tbl' = pre ++ none :: post := by
  induction tbl generalizing tbl' with
  | nil => simp [release] at h
  | cons slot tbl ih =>
      cases slot with
      | none =>
          obtain ⟨⟨k', rest⟩, hrest, heq⟩ := Option.map_eq_some_iff.mp h
          obtain ⟨rfl, rfl⟩ := Prod.mk.inj heq
          obtain ⟨pre, post, rfl, hk, hpre, rfl⟩ := ih hrest
          exact ⟨none :: pre, post, rfl, hk, hpre, rfl⟩
      | some j =>
          by_cases hj : p j = true
          · rw [release, if_pos hj, Option.some.injEq] at h
            obtain ⟨rfl, rfl⟩ := Prod.mk.inj h
            exact ⟨[], tbl, rfl, hj, fun _ hmem => absurd hmem List.not_mem_nil, rfl⟩
          -- `j` stays, so it is one of the keys before the released one
          · rw [release, if_neg hj] at h
            obtain ⟨⟨k', rest⟩, hrest, heq⟩ := Option.map_eq_some_iff.mp h
            obtain ⟨rfl, rfl⟩ := Prod.mk.inj heq
            obtain ⟨pre, post, rfl, hk, hpre, rfl⟩ := ih hrest
            refine ⟨some j :: pre, post, rfl, hk, fun i hi => ?_, rfl⟩
            rcases List.mem_cons.mp hi with rfl | hi
            · simpa using hj
            · exact hpre i hi

theorem release_eq_none : release p tbl = none ↔ ∀ j ∈ keys tbl, p j = false := by
  induction tbl with
  | nil => simp [release]
  | cons slot tbl ih =>
      cases slot with
      | none => simpa [release] using ih
      | some j =>
          by_cases hj : p j = true
          · simp [release, hj]
          · simpa [release, hj] using ih

theorem length_release (h : release p tbl = some (k, tbl')) : tbl'.length = tbl.length := by
  obtain ⟨pre, post, rfl, -, -, rfl⟩ := release_cases h
  simp

theorem keys_release_sublist (h : release p tbl = some (k, tbl')) :
    (keys tbl').Sublist (keys tbl) := by
  obtain ⟨pre, post, rfl, -, -, rfl⟩ := release_cases h
  simp only [keys_append, keys_none_cons, keys_some_cons]
  exact List.Sublist.append_left (List.sublist_cons_self _ _) _

/-- The released key was held, and every other key is held still. -/
theorem mem_keys_release (h : release p tbl = some (k, tbl')) {x : κ} (hx : x ≠ k) :
    x ∈ keys tbl' ↔ x ∈ keys tbl := by
  obtain ⟨pre, post, rfl, -, -, rfl⟩ := release_cases h
  simp [hx]

theorem release_key (h : release p tbl = some (k, tbl')) : p k = true ∧ k ∈ keys tbl := by
  obtain ⟨pre, post, rfl, hk, -, rfl⟩ := release_cases h
  exact ⟨hk, by simp⟩

/-- When at most one key satisfies `p`, none does after its release. -/
theorem filter_keys_release (h : release p tbl = some (k, tbl'))
    (hone : ((keys tbl).filter p).length ≤ 1) : (keys tbl').filter p = [] := by
  obtain ⟨pre, post, rfl, hk, hpre, rfl⟩ := release_cases h
  have hfirst : (keys pre).filter p = [] := by
    rw [List.filter_eq_nil_iff]
    intro j hj
    simp [hpre j hj]
  simp only [keys_append, keys_some_cons, List.filter_append, hfirst, List.nil_append,
    List.filter_cons_of_pos hk, List.length_cons] at hone
  have hrest : (keys post).filter p = [] := List.length_eq_zero_iff.mp (by omega)
  simp [hfirst, hrest]

/-- When keys are distinct, the released key is gone. -/
theorem notMem_keys_release (h : release p tbl = some (k, tbl')) (hnd : (keys tbl).Nodup) :
    k ∉ keys tbl' := by
  obtain ⟨pre, post, rfl, -, -, rfl⟩ := release_cases h
  simp only [keys_append, keys_some_cons] at hnd
  rw [List.nodup_middle, List.nodup_cons] at hnd
  simpa using hnd.1

end Release

/-! ## The set a table stands for -/

section Holds

variable {k : κ} {tbl tbl' : List (Option κ)} {S : Finset κ}

/-- The table holds the set `S`, each key in one slot. -/
structure Holds (tbl : List (Option κ)) (S : Finset κ) : Prop where
  nodup : (keys tbl).Nodup
  mem : ∀ x, x ∈ keys tbl ↔ x ∈ S

theorem holds_empty (n : ℕ) : Holds (List.replicate n (none : Option κ)) ∅ := by
  have hkeys : keys (List.replicate n (none : Option κ)) = [] := by
    induction n with
    | zero => rfl
    | succ n ih => exact ih
  constructor
  case nodup => rw [hkeys]; exact List.nodup_nil
  case mem => simp [hkeys]

variable [DecidableEq κ]

/-- Storing without a hole before the key inserts it. -/
theorem Holds.store (hS : Holds tbl S) (h : store k tbl = some tbl')
    (hhole : holeBefore k tbl = false) : Holds tbl' (insert k S) where
  nodup := nodup_store h hS.nodup hhole
  mem := by
    intro x
    rw [mem_keys_store h, Finset.mem_insert, hS.mem]

/-- Releasing a key erases it. -/
theorem Holds.release (hS : Holds tbl S) {p : κ → Bool} (h : release p tbl = some (k, tbl')) :
    Holds tbl' (S.erase k) where
  nodup := hS.nodup.sublist (keys_release_sublist h)
  mem := by
    intro x
    rw [Finset.mem_erase, ← hS.mem]
    by_cases hx : x = k
    · subst hx
      simp [notMem_keys_release h hS.nodup]
    · simp [hx, mem_keys_release h hx]

end Holds

end SlotTable
