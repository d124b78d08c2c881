import DaraChat.Lib.Machine

set_option autoImplicit false

/-! # Parties who answer each other

A party is a partial function: what it is told, and what it answers, if anything. In an exchange
the answer of the one is told to the other, in turn. `ends_iff_of_answer` moves the question
whether an exchange ends by one answer; `not_ends_of_closed` is the rule for exchanges that never
end: a property of messages that makes both parties answer, with a message that has it again.

Where many parties answer each other through a machine, an answer is an event, and what the machine
then sends out may be answered again, at any later time (`Cascade`). Such a chain ends when every
answer brings out messages of a smaller rank only (`Cascade.add_rank_le`).
-/

namespace Exchange

variable {α : Type*}

/-- The first `n` answers after `f` has been told `a`; fewer if a party stays silent. -/
def answers (f g : α → Option α) : α → Nat → List α
  | _, 0 => []
  | a, n + 1 =>
      match f a with
      | none => []
      | some b => b :: answers g f b n

/-- There are finitely many answers. -/
def Ends (f g : α → Option α) (a : α) : Prop := ∃ bound, ∀ n, (answers f g a n).length ≤ bound

variable {f g : α → Option α} {a b : α}

theorem answers_of_silent (h : f a = none) (n : Nat) : answers f g a n = [] := by
  cases n with
  | zero => rfl
  | succ n => simp [answers, h]

theorem answers_of_answer (h : f a = some b) (n : Nat) :
    answers f g a (n + 1) = b :: answers g f b n := by
  simp [answers, h]

theorem ends_of_silent (h : f a = none) : Ends f g a :=
  ⟨0, fun n => by rw [answers_of_silent h]; exact Nat.le_refl 0⟩

/-- An exchange ends when the rest of it does. -/
theorem ends_iff_of_answer (h : f a = some b) : Ends f g a ↔ Ends g f b := by
  constructor
  · rintro ⟨bound, hbound⟩
    refine ⟨bound, fun n => ?_⟩
    have hlength := hbound (n + 1)
    rw [answers_of_answer h, List.length_cons] at hlength
    omega
  · rintro ⟨bound, hbound⟩
    refine ⟨bound + 1, fun n => ?_⟩
    cases n with
    | zero => exact Nat.zero_le _
    | succ n =>
        rw [answers_of_answer h, List.length_cons]
        exact Nat.succ_le_succ (hbound n)

/-- Where both parties answer messages of a kind by messages of that kind, no answer is the
last. -/
theorem length_answers_of_closed {P : α → Prop} (hf : ∀ a, P a → ∃ b, f a = some b ∧ P b)
    (hg : ∀ a, P a → ∃ b, g a = some b ∧ P b) (h : P a) (n : Nat) :
    (answers f g a n).length = n := by
  -- the parties change places with every answer
  induction n generalizing f g a with
  | zero => rfl
  | succ n ih =>
      obtain ⟨b, hb, hPb⟩ := hf a h
      rw [answers_of_answer hb, List.length_cons, ih hg hf hPb]

/-- **The rule for endless exchanges.** -/
theorem not_ends_of_closed {P : α → Prop} (hf : ∀ a, P a → ∃ b, f a = some b ∧ P b)
    (hg : ∀ a, P a → ∃ b, g a = some b ∧ P b) (h : P a) : ¬ Ends f g a := by
  rintro ⟨bound, hbound⟩
  have hlength := hbound (bound + 1)
  rw [length_answers_of_closed hf hg h] at hlength
  omega

/-! ## Through a machine -/

section Cascade

variable {σ ε : Type*}

/-- In the run of `evs` the message is the `n`-th after some first message in a chain of answers.
Between two of them anything may happen. -/
inductive Cascade (M : Machine σ ε) (Causes : σ → ε → α → α → Prop) : List ε → α → Nat → Prop
  | start (evs : List ε) (a : α) : Cascade M Causes evs a 0
  | wait {evs : List ε} {a : α} {n : Nat} (e : ε) (h : Cascade M Causes evs a n) :
      Cascade M Causes (evs ++ [e]) a n
  | answer {evs : List ε} {a b : α} {n : Nat} {e : ε} (h : Cascade M Causes evs a n)
      (hcauses : Causes (M.run evs) e a b) : Cascade M Causes (evs ++ [e]) b (n + 1)

/-- **The rank rule**: a chain is no longer than the ranks go down. -/
theorem Cascade.add_rank_le {M : Machine σ ε} {Causes : σ → ε → α → α → Prop} {rank : α → Nat}
    {bound : Nat} (hlt : ∀ evs e a b, Causes (M.run evs) e a b → rank b < rank a)
    (hbound : ∀ a, rank a ≤ bound) {evs : List ε} {n : Nat} (h : Cascade M Causes evs a n) :
    n + rank a ≤ bound := by
  induction h with
  | start evs a =>
      rw [Nat.zero_add]
      exact hbound a
  | wait e _ ih => exact ih
  | answer _ hcauses ih =>
      have hless := hlt _ _ _ _ hcauses
      omega

end Cascade

end Exchange
