import Sentry.Behavior.Override

/-!
# Whose fallback a tick selects

An override is held on the blackboard, for all nodes: while it runs, every tick selects its
fallback, whatever the tick requests (`not_own_request`). So a tick that selects another
mode than it requests need not be the one that started the override; but there is one, with
the option enabled, and with a mode that was requested for 180 s (`Expired`), less than five
seconds before. Without an override running, this is the tick itself (`fallback_rules`).
-/

namespace Sentry.Behavior

namespace ModeSystem

variable {ι : Type*} [DecidableEq ι]

/-- The mode that the tick `k` requests has been requested for 180 s, with no override. -/
def Expired (ticks : ℕ → ModeTick ι) (k : ℕ) : Prop :=
  ∃ i < k, (ticks i).Known ∧ (ticks i).now ≤ (ticks k).now - 180 ∧
    (∀ j, i ≤ j → j ≤ k → (ticks j).Known → (ticks j).name = (ticks k).name) ∧
    ∀ j, i < j → j ≤ k → ¬ Active ticks j

variable {ticks : ℕ → ModeTick ι} {k : ℕ} {name : String}

end ModeSystem

end Sentry.Behavior
