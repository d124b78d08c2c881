import Mathlib.Data.Nat.Digits.Defs
import Mathlib.Tactic.Ring

set_option autoImplicit false

/-! # Digits regrouped

The same bits in digits of two widths: `Leads w v a b` says that the digits `b` of `v` bits are the
leading bits of the digits `a` of `w` bits, as many digits as there are bits for. What is left of the
last digits of `a` does not matter, and `b` is determined by `a`.
-/

namespace Digits

/-- The number with these digits, the first one the highest. -/
def number (base : Nat) (digits : List Nat) : Nat := Nat.ofDigits base digits.reverse

@[simp] theorem number_nil (base : Nat) : number base [] = 0 := rfl

theorem number_append (base : Nat) (a b : List Nat) :
    number base (a ++ b) = number base a * base ^ b.length + number base b := by
  rw [number, List.reverse_append, Nat.ofDigits_append, List.length_reverse, number, number]
  ring

theorem number_cons (base x : Nat) (a : List Nat) :
    number base (x :: a) = x * base ^ a.length + number base a := by
  rw [← List.singleton_append, number_append]
  simp [number]

/-- Numbers with the same number of digits are equal when all digits are. -/
theorem number_inj {base : Nat} (hbase : 1 < base) {a b : List Nat} (hlength : a.length = b.length)
    (ha : ∀ x ∈ a, x < base) (hb : ∀ x ∈ b, x < base) (h : number base a = number base b) :
    a = b := by
  refine List.reverse_inj.mp (Nat.ofDigits_inj_of_len_eq hbase ?_ ?_ ?_ h)
  · rw [List.length_reverse, List.length_reverse, hlength]
  · intro x hx
    exact ha x (List.mem_reverse.mp hx)
  · intro x hx
    exact hb x (List.mem_reverse.mp hx)

/-- `b` are the leading bits of `a`, in whole digits of `v` bits. -/
structure Leads (w v : Nat) (a b : List Nat) : Prop where
  left_lt : ∀ x ∈ a, x < 2 ^ w
  right_lt : ∀ x ∈ b, x < 2 ^ v
  length : b.length = a.length * w / v
  value : number (2 ^ v) b = number (2 ^ w) a / 2 ^ (a.length * w % v)

/-- The digits `b` are determined. -/
theorem Leads.right_unique {w v : Nat} (hv : 0 < v) {a b b' : List Nat} (h : Leads w v a b)
    (h' : Leads w v a b') : b = b' := by
  have hbase : 1 < 2 ^ v := Nat.one_lt_two_pow (by omega)
  exact number_inj hbase (h.length.trans h'.length.symm) h.right_lt h'.right_lt
    (h.value.trans h'.value.symm)

/-- A block of digits that is regrouped without a rest, before any others. -/
theorem Leads.append {w v : Nat} (hv : 0 < v) {block a regrouped b : List Nat}
    (hblock : Leads w v block regrouped) (hwhole : block.length * w % v = 0) (h : Leads w v a b) :
    Leads w v (block ++ a) (regrouped ++ b) where
  left_lt := List.forall_mem_append.mpr ⟨hblock.left_lt, h.left_lt⟩
  right_lt := List.forall_mem_append.mpr ⟨hblock.right_lt, h.right_lt⟩
  length := by
    obtain ⟨k, hk⟩ := Nat.dvd_of_mod_eq_zero hwhole
    rw [List.length_append, List.length_append, hblock.length, h.length, Nat.add_mul, hk,
      Nat.mul_div_cancel_left _ hv, Nat.mul_add_div hv]
  value := by
    obtain ⟨k, hk⟩ := Nat.dvd_of_mod_eq_zero hwhole
    -- the digits behind the block are worth the same bits on both sides, but for what is left over
    have hbits : (2 ^ w) ^ a.length = (2 ^ v) ^ b.length * 2 ^ (a.length * w % v) := by
      rw [← pow_mul, ← pow_mul, ← pow_add, h.length, Nat.mul_comm w, Nat.div_add_mod]
    have hrest : (block ++ a).length * w % v = a.length * w % v := by
      rw [List.length_append, Nat.add_mul, hk, Nat.mul_add_mod]
    have hequal : number (2 ^ v) regrouped = number (2 ^ w) block := by
      rw [hblock.value, hwhole, pow_zero, Nat.div_one]
    rw [number_append, number_append, hrest, hbits, h.value, hequal, ← Nat.mul_assoc, Nat.mul_comm
      (number (2 ^ w) block * (2 ^ v) ^ b.length), Nat.mul_add_div (Nat.two_pow_pos _)]

end Digits
