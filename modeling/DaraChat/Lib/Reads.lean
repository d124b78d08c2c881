import Mathlib.Data.List.Basic

set_option autoImplicit false

/-! # Readers and the ranges they read

A `Reader` has read some ranges of its input and has a value, or has failed; what a failed reader
had read before is kept. It is safe for an input of `size` elements if every range starts at an
element of the input and ends within it. `safe_bind`: a reader that goes on with the value of
another is safe if both are, and this is the rule by which a chain of reads is taken apart.
-/

namespace Reads

/-- A range that is read: the index of its first element, and its length. -/
structure Access where
  index : Nat
  length : Nat
  deriving DecidableEq

/-- The range starts at an element and ends within the input, also when it is empty. -/
def Access.Within (size : Nat) (access : Access) : Prop :=
  access.index < size ∧ access.index + access.length ≤ size

/-- A reader after it has run. -/
structure Reader (α : Type*) where
  accesses : List Access
  value : Option α

namespace Reader

variable {α β : Type*}

/-- A failure. -/
def fail : Reader α := ⟨[], none⟩

/-- The read of one range. -/
def read (index length : Nat) (value : α) : Reader α := ⟨[⟨index, length⟩], some value⟩

instance : Monad Reader where
  pure a := ⟨[], some a⟩
  bind x f :=
    match x.value with
    | none => ⟨x.accesses, none⟩
    | some a => ⟨x.accesses ++ (f a).accesses, (f a).value⟩

/-- Every range that was read lies in an input of `size` elements. -/
def Safe (size : Nat) (r : Reader α) : Prop := ∀ access ∈ r.accesses, access.Within size

@[simp] theorem value_fail : (fail : Reader α).value = none := rfl

@[simp] theorem value_read (index length : Nat) (value : α) :
    (read index length value).value = some value := rfl

@[simp] theorem value_pure (a : α) : (pure a : Reader α).value = some a := rfl

@[simp] theorem value_ite {c : Prop} [Decidable c] (x y : Reader α) :
    (if c then x else y).value = if c then x.value else y.value := by
  split
  · rfl
  · rfl

@[simp] theorem safe_fail (size : Nat) : (fail : Reader α).Safe size := by
  intro access haccess
  cases haccess

@[simp] theorem safe_pure (size : Nat) (a : α) : (pure a : Reader α).Safe size := by
  intro access haccess
  cases haccess

@[simp] theorem safe_read {size index length : Nat} {value : α} :
    (read index length value).Safe size ↔ index < size ∧ index + length ≤ size := by
  simp [Safe, read, Access.Within]

theorem safe_ite {size : Nat} {c : Prop} [Decidable c] {x y : Reader α} :
    (if c then x else y).Safe size ↔ (c → x.Safe size) ∧ (¬ c → y.Safe size) := by
  by_cases h : c
  · simp [h]
  · simp [h]

end Reader

namespace Reader

variable {α β : Type}

@[simp] theorem value_bind (x : Reader α) (f : α → Reader β) :
    (x >>= f).value = x.value >>= fun a => (f a).value := by
  obtain ⟨accesses, _ | a⟩ := x
  · rfl
  · rfl

/-- **A chain of readers is safe when each of them is**, on the values of those before it. -/
theorem safe_bind {size : Nat} {x : Reader α} {f : α → Reader β} :
    (x >>= f).Safe size ↔ x.Safe size ∧ ∀ a, x.value = some a → (f a).Safe size := by
  obtain ⟨accesses, _ | a⟩ := x
  · simp [Safe, bind]
  · constructor
    · intro h
      refine ⟨fun access haccess => h access (List.mem_append_left _ haccess), ?_⟩
      intro b hb access haccess
      obtain rfl : a = b := Option.some.inj hb
      exact h access (List.mem_append_right _ haccess)
    · rintro ⟨hx, hf⟩ access haccess
      rcases List.mem_append.mp haccess with haccess | haccess
      · exact hx access haccess
      · exact hf a rfl access haccess

end Reader

end Reads
