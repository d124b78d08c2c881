import Mathlib.Data.List.Basic

set_option autoImplicit false

/-! # Frames in a stream

A framing says of a sequence how long its first frame is, once enough of it is there to know
(`need`); more input does not change that. `split` takes a complete first frame off, and `drain`
all of them, so that what it leaves is the beginning of a frame that is not complete. `drain_append`
is why the arrival of a stream in pieces makes no difference: to drain what is there and go on with
the leftover is to drain the whole. `drain_prefix` is the same for a stream that is known to consist
of frames.
-/

/-- How long the first frame is. -/
structure Framing (α : Type*) where
  need : List α → Option Nat
  need_append : ∀ {a : List α} {n : Nat} (b : List α), need a = some n → need (a ++ b) = some n
  need_pos : ∀ {a : List α} {n : Nat}, need a = some n → 0 < n

namespace Framing

variable {α : Type*} (F : Framing α)

/-- The first frame and what follows it, if the frame is complete. -/
def split (a : List α) : Option (List α × List α) :=
  match F.need a with
  | some n => if n ≤ a.length then some (a.take n, a.drop n) else none
  | none => none

/-- The complete frames and what is left, in at most `fuel` steps. -/
def drainUpTo : Nat → List α → List (List α) × List α
  | 0, a => ([], a)
  | fuel + 1, a =>
      match F.split a with
      | none => ([], a)
      | some (f, rest) => (f :: (drainUpTo fuel rest).1, (drainUpTo fuel rest).2)

/-- The complete frames and what is left. -/
def drain (a : List α) : List (List α) × List α := F.drainUpTo a.length a

/-- The sequence is one frame. -/
def IsFrame (f : List α) : Prop := F.need f = some f.length

variable {F} {a b f rest : List α} {n : Nat}

/-! ## One frame -/

theorem split_eq_some : F.split a = some (f, rest) ↔ F.need a = some f.length ∧ a = f ++ rest := by
  unfold split
  constructor
  · intro h
    split at h
    · rename_i n hneed
      split at h
      · rename_i hle
        obtain ⟨rfl, rfl⟩ := Prod.mk.inj (Option.some.inj h)
        rw [List.length_take_of_le hle, List.take_append_drop]
        exact ⟨hneed, rfl⟩
      · cases h
    · cases h
  · rintro ⟨hneed, rfl⟩
    rw [hneed]
    simp

theorem split_append (h : F.split a = some (f, rest)) : F.split (a ++ b) = some (f, rest ++ b) := by
  obtain ⟨hneed, rfl⟩ := split_eq_some.mp h
  exact split_eq_some.mpr ⟨F.need_append b hneed, List.append_assoc f rest b⟩

/-- A frame is split off whatever follows it. -/
theorem IsFrame.split (h : F.IsFrame f) (rest : List α) : F.split (f ++ rest) = some (f, rest) :=
  split_eq_some.mpr ⟨F.need_append rest h, rfl⟩

theorem length_of_split (h : F.split a = some (f, rest)) : rest.length < a.length := by
  obtain ⟨hneed, rfl⟩ := split_eq_some.mp h
  have hpos := F.need_pos hneed
  rw [List.length_append]
  omega

/-- The length of a frame is known from a part of it. -/
theorem need_of_append_eq (hneed : F.need a = some n) (hf : F.IsFrame f)
    (h : a ++ b = f ++ rest) : n = f.length := by
  have hleft := F.need_append b hneed
  rw [h, F.need_append rest hf] at hleft
  exact (Option.some.inj hleft).symm

/-- What is not complete is shorter than the frame that it begins. -/
theorem length_lt_of_append_eq (hsplit : F.split a = none) (hf : F.IsFrame f)
    (h : a ++ b = f ++ rest) : a.length < f.length := by
  by_contra hle
  obtain ⟨more, rfl⟩ := List.prefix_of_prefix_length_le (List.prefix_append f rest)
    (h ▸ List.prefix_append a b) (Nat.le_of_not_lt hle)
  rw [hf.split] at hsplit
  cases hsplit

/-! ## All frames -/

theorem drainUpTo_of_none (h : F.split a = none) (fuel : Nat) : F.drainUpTo fuel a = ([], a) := by
  cases fuel with
  | zero => rfl
  | succ fuel => simp [drainUpTo, h]

/-- Fuel for every element is enough. -/
theorem drainUpTo_congr {fuel fuel' : Nat} (h : a.length ≤ fuel) (h' : a.length ≤ fuel') :
    F.drainUpTo fuel a = F.drainUpTo fuel' a := by
  induction fuel generalizing a fuel' with
  | zero =>
      have hnone : F.split a = none := by
        by_contra hsome
        obtain ⟨⟨f, rest⟩, hp⟩ := Option.ne_none_iff_exists'.mp hsome
        have hlt := length_of_split hp
        omega
      rw [drainUpTo_of_none hnone, drainUpTo_of_none hnone]
  | succ fuel ih =>
      cases hsplit : F.split a with
      | none => rw [drainUpTo_of_none hsplit, drainUpTo_of_none hsplit]
      | some p =>
          obtain ⟨f, rest⟩ := p
          have hlt := length_of_split hsplit
          obtain ⟨fuel', rfl⟩ : ∃ k, fuel' = k + 1 := ⟨fuel' - 1, by omega⟩
          have hrest : F.drainUpTo fuel rest = F.drainUpTo fuel' rest := ih (by omega) (by omega)
          simp only [drainUpTo, hsplit, hrest]

theorem drain_of_none (h : F.split a = none) : F.drain a = ([], a) := drainUpTo_of_none h _

theorem drain_of_some (h : F.split a = some (f, rest)) :
    F.drain a = (f :: (F.drain rest).1, (F.drain rest).2) := by
  have hlt := length_of_split h
  obtain ⟨fuel, hfuel⟩ : ∃ fuel, a.length = fuel + 1 := ⟨a.length - 1, by omega⟩
  rw [drain, hfuel, drainUpTo, h]
  simp only
  rw [drain, drainUpTo_congr (by omega) (Nat.le_refl rest.length)]

/-- The induction rule: what is left once no first frame is complete, and one frame more. -/
theorem drain_induction {P : List α → Prop} (hnone : ∀ a, F.split a = none → P a)
    (hsome : ∀ a f rest, F.split a = some (f, rest) → P rest → P a) : ∀ a, P a := by
  intro a
  induction hlen : a.length using Nat.strongRecOn generalizing a with
  | ind len ih =>
      cases hsplit : F.split a with
      | none => exact hnone a hsplit
      | some p =>
          obtain ⟨f, rest⟩ := p
          exact hsome a f rest hsplit (ih rest.length (hlen ▸ length_of_split hsplit) rest rfl)

/-- What is left does not start with a complete frame. -/
theorem split_drain (a : List α) : F.split (F.drain a).2 = none := by
  induction a using drain_induction (F := F) with
  | hnone a h => rwa [drain_of_none h]
  | hsome a f rest h ih => rwa [drain_of_some h]

/-- Nothing is lost. -/
theorem flatten_drain (a : List α) : (F.drain a).1.flatten ++ (F.drain a).2 = a := by
  induction a using drain_induction (F := F) with
  | hnone a h => rw [drain_of_none h, List.flatten_nil, List.nil_append]
  | hsome a f rest h ih =>
      rw [drain_of_some h, List.flatten_cons, List.append_assoc, ih]
      exact (split_eq_some.mp h).2.symm

/-- **Draining in pieces is draining the whole.** -/
theorem drain_append (a b : List α) :
    F.drain (a ++ b) = ((F.drain a).1 ++ (F.drain ((F.drain a).2 ++ b)).1,
      (F.drain ((F.drain a).2 ++ b)).2) := by
  induction a using drain_induction (F := F) with
  | hnone a h => rw [drain_of_none h, List.nil_append]
  | hsome a f rest h ih =>
      rw [drain_of_some h, drain_of_some (split_append h), ih]
      rfl

theorem drain_flatten_append {fs : List (List α)} (hfs : ∀ f ∈ fs, F.IsFrame f)
    (hrest : F.split rest = none) : F.drain (fs.flatten ++ rest) = (fs, rest) := by
  induction fs with
  | nil => exact drain_of_none hrest
  | cons f fs ih =>
      have hsplit := (hfs f List.mem_cons_self).split (fs.flatten ++ rest)
      rw [List.flatten_cons, List.append_assoc, drain_of_some hsplit,
        ih fun g hg => hfs g (List.mem_cons_of_mem f hg)]

/-- **What has arrived of a stream of frames** is some of the frames, and the beginning of the rest
of the stream. -/
theorem drain_prefix {fs : List (List α)} (hfs : ∀ f ∈ fs, F.IsFrame f) (hnil : F.split [] = none)
    (h : a ++ b = fs.flatten) :
    ∃ gs, fs = (F.drain a).1 ++ gs ∧ (F.drain a).2 ++ b = gs.flatten := by
  have hall : F.drain (a ++ b) = (fs, []) := by
    rw [h, ← List.append_nil fs.flatten]
    exact drain_flatten_append hfs hnil
  rw [drain_append] at hall
  obtain ⟨hframes, hleft⟩ := Prod.mk.inj hall
  refine ⟨(F.drain ((F.drain a).2 ++ b)).1, hframes.symm, ?_⟩
  have hflatten := flatten_drain (F := F) ((F.drain a).2 ++ b)
  rw [hleft, List.append_nil] at hflatten
  exact hflatten.symm

/-- What has arrived of any stream is some of its frames, and the beginning of the rest of it. -/
theorem drain_arrived (a b : List α) :
    ∃ gs, (F.drain (a ++ b)).1 = (F.drain a).1 ++ gs ∧
      (F.drain a).2 ++ b = gs.flatten ++ (F.drain (a ++ b)).2 := by
  rw [drain_append]
  exact ⟨_, rfl, (flatten_drain _).symm⟩

/-- What holds of every frame that is split off holds of all frames. -/
theorem forall_mem_drain {P : List α → Prop}
    (h : ∀ a f rest, F.split a = some (f, rest) → P f) (a : List α) : ∀ f ∈ (F.drain a).1, P f := by
  induction a using drain_induction (F := F) with
  | hnone a hnone =>
      rw [drain_of_none hnone]
      intro f hf
      cases hf
  | hsome a f rest hsome ih =>
      rw [drain_of_some hsome]
      intro g hg
      rcases List.mem_cons.mp hg with rfl | hg
      · exact h a g rest hsome
      · exact ih g hg

end Framing
