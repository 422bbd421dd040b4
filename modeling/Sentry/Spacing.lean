import Mathlib.Algebra.Order.Group.Defs
import Mathlib.Data.List.Chain

/-!
# Spaced times

Times are *spaced* by `d` if each is at least `d` after the one before it. Spaced lists are
joined at the last time of the first one (`Spaced.append`), and in an ordered group, there
is room for few spaced times in an interval (`Spaced.length_nsmul_le`).
-/

namespace Spacing

variable {α : Type*}

section

variable [Add α] [LE α]

/-- Each time is at least `d` after the one before it. -/
def Spaced (d : α) (times : List α) : Prop := times.IsChain fun t t' => t + d ≤ t'

variable {d : α} {times times' : List α}

/-- Spaced times go on from the last one. -/
theorem Spaced.append (h : Spaced d times) (h' : Spaced d (times.getLast?.toList ++ times')) :
    Spaced d (times ++ times') := by
  rw [Spaced, List.isChain_append] at h' ⊢
  refine ⟨h, h'.2.1, fun t ht t' ht' => h'.2.2 t ?_ t' ht'⟩
  rw [Option.mem_def.1 ht]
  rfl

theorem Spaced.right (h : Spaced d (times ++ times')) : Spaced d times' :=
  (List.isChain_append.1 h).2.1

end

/-- The spaces between some times add up to no more than the interval they are in. -/
theorem Spaced.length_nsmul_le [AddCommGroup α] [PartialOrder α] [IsOrderedAddMonoid α]
    {d a b : α} {times : List α} (h : Spaced d (a :: times)) (hb : ∀ t ∈ a :: times, t ≤ b) :
    times.length • d ≤ b - a := by
  induction times generalizing a with
  | nil =>
    rw [List.length_nil, zero_nsmul, sub_nonneg]
    exact hb a List.mem_cons_self
  | cons t times ih =>
    obtain ⟨hstep, hrest⟩ := List.isChain_cons_cons.1 h
    have hle := ih hrest fun t' ht' => hb t' (List.mem_cons_of_mem a ht')
    calc (times.length + 1) • d = times.length • d + d := succ_nsmul d _
      _ ≤ (b - t) + (t - a) := add_le_add hle (le_sub_iff_add_le'.2 hstep)
      _ = b - a := sub_add_sub_cancel b t a

end Spacing
