import Mathlib.Algebra.Order.Ring.Int
import Mathlib.Data.BitVec
import Mathlib.Tactic.Positivity
import Mathlib.Tactic.Ring

/-!
# Narrowing

An integer narrowed to a signed one of `w + 1` bits wraps around: it is reduced modulo
`2 ^ (w + 1)`. A saturating conversion (`saturate`) clamps it to the range instead. Both keep
what is in the range; outside of it they agree just on the values that wrap around to the end
of the range they left it by (`toInt_ofInt_eq_saturate_iff`).
-/

namespace Narrowing

/-- The range of a signed integer of `w + 1` bits. -/
def InRange (w : ℕ) (v : ℤ) : Prop := -2 ^ w ≤ v ∧ v ≤ 2 ^ w - 1

/-- The conversion to `w + 1` bits that clamps. -/
def saturate (w : ℕ) (v : ℤ) : ℤ := max (-2 ^ w) (min (2 ^ w - 1) v)

/-- The values that wrap around to what they saturate to. -/
def Saturates (w : ℕ) (v : ℤ) : Prop :=
  InRange w v ∨ (2 ^ w - 1 < v ∧ 2 ^ (w + 1) ∣ v - (2 ^ w - 1)) ∨
    (v < -2 ^ w ∧ 2 ^ (w + 1) ∣ v + 2 ^ w)

instance (w : ℕ) (v : ℤ) : Decidable (InRange w v) := inferInstanceAs (Decidable (_ ∧ _))

instance (w : ℕ) (v : ℤ) : Decidable (Saturates w v) := inferInstanceAs (Decidable (_ ∨ _))

variable {w : ℕ} {v : ℤ}

theorem saturate_mono (w : ℕ) {v v' : ℤ} (h : v ≤ v') : saturate w v ≤ saturate w v' := by
  rw [saturate, saturate]
  omega

theorem saturate_nonneg (h : 0 ≤ v) : 0 ≤ saturate w v := by
  have : (0 : ℤ) < 2 ^ w := by positivity
  rw [saturate]
  omega

theorem saturate_nonpos (h : v ≤ 0) : saturate w v ≤ 0 := by
  have : (0 : ℤ) < 2 ^ w := by positivity
  rw [saturate]
  omega

/-- A value in the range, and all those congruent to it, are narrowed to it. -/
theorem toInt_ofInt_eq_iff {r : ℤ} (hr : InRange w r) :
    (BitVec.ofInt (w + 1) v).toInt = r ↔ 2 ^ (w + 1) ∣ v - r := by
  have hcast : ((2 ^ (w + 1) : ℕ) : ℤ) = 2 ^ (w + 1) := by push_cast; rfl
  have hpow : (2 : ℤ) ^ (w + 1) = 2 * 2 ^ w := by ring
  have hbmod : r.bmod (2 ^ (w + 1)) = r :=
    Int.bmod_eq_of_le_mul_two (by have := hr.1; omega) (by have := hr.2; omega)
  rw [BitVec.toInt_ofInt, ← hbmod, Int.bmod_eq_bmod_iff_bmod_sub_eq_zero,
    ← Int.dvd_iff_bmod_eq_zero, hbmod, hcast]

/-- Narrowing wraps a value around to the saturated one just when they agree. -/
theorem toInt_ofInt_eq_saturate_iff :
    (BitVec.ofInt (w + 1) v).toInt = saturate w v ↔ Saturates w v := by
  have hpos : (0 : ℤ) < 2 ^ w := by positivity
  have hpow : (2 : ℤ) ^ (w + 1) = 2 * 2 ^ w := by ring
  have hrange : InRange w (saturate w v) := by
    rw [InRange, saturate]
    omega
  rw [toInt_ofInt_eq_iff hrange, Saturates, InRange]
  rcases lt_or_ge (2 ^ w - 1) v with hhigh | hhigh
  · have hsat : saturate w v = 2 ^ w - 1 := by rw [saturate]; omega
    rw [hsat]
    constructor
    · exact fun h => .inr (.inl ⟨hhigh, h⟩)
    · rintro (h | ⟨-, h⟩ | h)
      · omega
      · exact h
      · omega
  · rcases lt_or_ge v (-2 ^ w) with hlow | hlow
    · have hsat : saturate w v = -2 ^ w := by rw [saturate]; omega
      rw [hsat, sub_neg_eq_add]
      constructor
      · exact fun h => .inr (.inr ⟨hlow, h⟩)
      · rintro (h | h | ⟨-, h⟩)
        · omega
        · omega
        · exact h
    · have hsat : saturate w v = v := by rw [saturate]; omega
      rw [hsat, sub_self]
      exact iff_of_true (dvd_zero _) (.inl ⟨hlow, hhigh⟩)

end Narrowing
