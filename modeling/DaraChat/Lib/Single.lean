import Mathlib.Algebra.Order.Ring.Unbundled.Rat
import Mathlib.Algebra.Order.GroupWithZero.Basic
import Mathlib.Order.WithBot
import Mathlib.Tactic.Positivity
import Mathlib.Tactic.NormNum

set_option autoImplicit false

/-! # The value of a single-precision pattern

IEEE 754 `binary32`: a sign, eight bits of exponent and 23 of fraction. A pattern whose exponent
is all ones is an infinity or not a number; any other is a whole multiple of `2 ^ -149`, the
smallest positive single. `positive_iff` and `isNaN_iff` read the two classes off the pattern as a
natural number.
-/

namespace Single

variable (f : UInt32)

/-- The biased exponent. -/
def exponent : Nat := f.toNat / 2 ^ 23 % 256

def fraction : Nat := f.toNat % 2 ^ 23

/-- The sign bit. -/
def Negative : Prop := 2 ^ 31 ≤ f.toNat

instance : Decidable (Negative f) := inferInstanceAs (Decidable (2 ^ 31 ≤ f.toNat))

/-- The magnitude of a finite pattern in units of `2 ^ -149`: subnormal, or with the hidden bit. -/
def units : Nat :=
  if exponent f = 0 then fraction f else (2 ^ 23 + fraction f) * 2 ^ (exponent f - 1)

/-- The value, an infinity included; `none` is not a number. -/
def value : Option (WithBot (WithTop ℚ)) :=
  if exponent f = 255 then
    if fraction f ≠ 0 then none
    else if Negative f then some ⊥
    else some ((⊤ : WithTop ℚ) : WithBot (WithTop ℚ))
  else
    let magnitude : ℚ := units f / 2 ^ 149
    some (((if Negative f then -magnitude else magnitude : ℚ) : WithTop ℚ) : WithBot (WithTop ℚ))

def IsNaN : Prop := value f = none

/-- A number greater than zero. -/
def Positive : Prop := ∃ v, value f = some v ∧ 0 < v

variable {f}

theorem units_eq_zero : units f = 0 ↔ f.toNat % 2 ^ 31 = 0 := by
  unfold units exponent fraction
  split
  · omega
  · have hpow : 0 < 2 ^ (f.toNat / 2 ^ 23 % 256 - 1) := Nat.two_pow_pos _
    rw [Nat.mul_eq_zero]
    omega

theorem isNaN_iff : IsNaN f ↔ 2139095040 < f.toNat % 2 ^ 31 := by
  unfold IsNaN value
  have hlt : f.toNat < 2 ^ 32 := f.toNat_lt
  by_cases hexponent : exponent f = 255
  · rw [if_pos hexponent]
    unfold exponent at hexponent
    by_cases hfraction : fraction f = 0
    · rw [if_neg (not_not.mpr hfraction)]
      unfold fraction at hfraction
      constructor
      · intro h
        split at h
        · cases h
        · cases h
      · intro h
        omega
    · rw [if_pos hfraction]
      unfold fraction at hfraction
      simp only [true_iff]
      omega
  · rw [if_neg hexponent]
    unfold exponent at hexponent
    simp only [reduceCtorEq, false_iff]
    omega

theorem positive_of_value {v : WithBot (WithTop ℚ)} (h : value f = some v) :
    Positive f ↔ 0 < v := by
  constructor
  · rintro ⟨v', hv', hpos⟩
    rw [h] at hv'
    exact Option.some.inj hv' ▸ hpos
  · exact fun hpos => ⟨v, h, hpos⟩

/-- A finite pattern is positive when its sign bit is clear and it is not a zero. -/
theorem positive_finite (h : exponent f ≠ 255) : Positive f ↔ ¬ Negative f ∧ units f ≠ 0 := by
  have hvalue : value f = some _ := if_neg h
  rw [positive_of_value hvalue, ← WithBot.coe_zero, WithBot.coe_lt_coe, ← WithTop.coe_zero,
    WithTop.coe_lt_coe]
  have hscale : (0 : ℚ) < 2 ^ 149 := by positivity
  by_cases hnegative : Negative f
  · rw [if_pos hnegative]
    have hmagnitude : (0 : ℚ) ≤ units f / 2 ^ 149 := by positivity
    exact ⟨fun hpos => absurd hpos (not_lt.mpr (neg_nonpos.mpr hmagnitude)),
      fun h => absurd hnegative h.1⟩
  · rw [if_neg hnegative, div_pos_iff_of_pos_right hscale, Nat.cast_pos, Nat.pos_iff_ne_zero]
    exact ⟨fun hpos => ⟨hnegative, hpos⟩, And.right⟩

theorem positive_iff : Positive f ↔ 0 < f.toNat ∧ f.toNat ≤ 2139095040 := by
  have hlt : f.toNat < 2 ^ 32 := f.toNat_lt
  by_cases hnan : IsNaN f
  · constructor
    · rintro ⟨v, hv, -⟩
      rw [hnan] at hv
      cases hv
    · rw [isNaN_iff] at hnan
      omega
  by_cases hexponent : exponent f = 255
  · -- the two infinities
    have hfraction : fraction f = 0 := by
      by_contra h
      exact hnan ((if_pos hexponent).trans (if_pos h))
    have hvalue : value f = if Negative f then some (⊥ : WithBot (WithTop ℚ))
        else some ((⊤ : WithTop ℚ) : WithBot (WithTop ℚ)) :=
      (if_pos hexponent).trans (if_neg (not_not.mpr hfraction))
    unfold exponent at hexponent
    unfold fraction at hfraction
    by_cases hnegative : Negative f
    · rw [if_pos hnegative] at hvalue
      rw [positive_of_value hvalue]
      unfold Negative at hnegative
      simp only [not_lt_bot, false_iff]
      omega
    · rw [if_neg hnegative] at hvalue
      rw [positive_of_value hvalue]
      unfold Negative at hnegative
      have htop : (0 : WithBot (WithTop ℚ)) < ((⊤ : WithTop ℚ) : WithBot _) :=
        WithBot.coe_lt_coe.mpr (WithTop.coe_lt_top 0)
      simp only [htop, true_iff]
      omega
  · rw [positive_finite hexponent, ne_eq, units_eq_zero]
    rw [isNaN_iff] at hnan
    unfold Negative
    omega

end Single
