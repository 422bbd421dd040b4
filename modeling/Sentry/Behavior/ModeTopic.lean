import Sentry.Behavior.Override

/-!
# The topic of the mode

The nodes `SetSentryMode` share one entry of the blackboard for the mode that was published
last, but each tick has a topic of its own. A tick that selects the mode on the blackboard
publishes nothing, before it looks at its topic: on a topic that has not had the mode, it
succeeds all the same (`not_hasMode_other`).

What the topics have had is told by the modes that the ticks on them selected, as long as
every tick leaves its topic with its mode (`agrees`). So all ticks do just when every tick
that selects the mode of the tick before it is on a topic whose last tick selected that mode
too (`hasMode_iff`).
-/

namespace Sentry.Behavior

namespace SetSentryMode

/-- Known modes have values of their own. -/
theorem modeToValue_inj {name name' : String} (h : 0 ≤ modeToValue name)
    (heq : modeToValue name = modeToValue name') : name = name' := by
  rcases known_cases h with rfl | rfl | rfl <;>
    rcases known_cases (heq ▸ h) with rfl | rfl | rfl <;>
    first | rfl | exact absurd heq (by decide)

end SetSentryMode

open SetSentryMode (modeToValue)

namespace ModeSystem

variable {ι : Type*} [DecidableEq ι]

section Topics

variable (ticks : ℕ → ModeTick ι)

/-- What was published before the tick `k`, with the topics, the newest first. -/
def published : ℕ → List (String × ℤ)
  | 0 => []
  | k + 1 => ((run ticks k).tick (ticks k)).2.2.toList ++ published k

/-- The modes that the ticks before the tick `k` selected, with their topics, the newest
    first. -/
def selections : ℕ → List (String × String)
  | 0 => []
  | k + 1 =>
    if (ticks k).Known then ((ticks k).topic, (run ticks k).selection (ticks k)) :: selections k
    else selections k

/-- After the tick `k`, if it selects a mode, its topic has this mode. -/
def HasMode (k : ℕ) : Prop :=
  ∀ name, (run ticks k).Selects (ticks k) name →
    (published ticks (k + 1)).lookup (ticks k).topic = some (modeToValue name)

/-- If the tick `k` selects the mode that was selected last, so did the last tick on its
    topic. -/
def Heard (k : ℕ) : Prop :=
  (ticks k).Known →
    (selections ticks k).head?.map Prod.snd = some ((run ticks k).selection (ticks k)) →
    (selections ticks k).lookup (ticks k).topic = some ((run ticks k).selection (ticks k))

/-- The nodes have their publishers on their topics, and the blackboard has the mode selected
    last. -/
structure Current (k : ℕ) : Prop where
  publishers : ∀ i, ((run ticks k).nodes i).modePub = none ∨
    ((run ticks k).nodes i).modePub = some ((run ticks k).nodes i).currentTopic
  known : ∀ p ∈ selections ticks k, 0 ≤ modeToValue p.2
  unselected : selections ticks k = [] → (run ticks k).board.currentSentryMode = -1
  selected : ∀ p ∈ (selections ticks k).head?, (run ticks k).board.currentSentryModeName = p.2 ∧
    (run ticks k).board.currentSentryMode = modeToValue p.2

/-- Every topic has the mode that the last tick on it selected. -/
def Agree (k : ℕ) : Prop :=
  ∀ topic, (published ticks k).lookup topic =
    ((selections ticks k).lookup topic).map modeToValue

variable {ticks} {k : ℕ}

theorem selections_of_known (h : (ticks k).Known) : selections ticks (k + 1) =
    ((ticks k).topic, (run ticks k).selection (ticks k)) :: selections ticks k := if_pos h

theorem selections_of_unknown (h : ¬ (ticks k).Known) :
    selections ticks (k + 1) = selections ticks k := if_neg h

/-- Every node can publish on every topic. -/
theorem Current.reaches (h : Current ticks k) (i : ι) (topic : String) :
    ((run ticks k).nodes i).Reaches topic := by
  rcases h.publishers i with hnone | hsome
  · exact .inl hnone
  · by_cases htopic : topic = ((run ticks k).nodes i).currentTopic
    · exact .inr (.inr (htopic ▸ hsome))
    · exact .inr (.inl htopic)

/-- The mode that a known tick selects is known. -/
theorem selection_known (h : (ticks k).Known) :
    0 ≤ modeToValue ((run ticks k).selection (ticks k)) := by
  obtain ⟨hchoice, -⟩ := (run ticks k).tick_known h
  exact (hchoice.known h (override_known ticks k)).1

/-- The blackboard has a known mode just when it was selected last. -/
theorem Current.same_iff (h : Current ticks k) {name : String} (hknown : 0 ≤ modeToValue name) :
    ((run ticks k).board.currentSentryMode = modeToValue name ∧
      (run ticks k).board.currentSentryModeName = name) ↔
        (selections ticks k).head?.map Prod.snd = some name := by
  cases hs : selections ticks k with
  | nil =>
    rw [h.unselected hs]
    refine iff_of_false (fun hsame => ?_) (by simp)
    omega
  | cons p ps =>
    obtain ⟨hname, hvalue⟩ := h.selected p (by rw [hs]; rfl)
    rw [hname, hvalue, List.head?_cons, Option.map_some, Option.some_inj]
    exact ⟨fun hsame => hsame.2, fun hsame => ⟨by rw [hsame], hsame⟩⟩

theorem published_of_message {m : String × ℤ}
    (h : ((run ticks k).tick (ticks k)).2.2 = some m) :
    published ticks (k + 1) = m :: published ticks k := by
  rw [published, h]
  rfl

theorem published_of_silent (h : ((run ticks k).tick (ticks k)).2.2 = none) :
    published ticks (k + 1) = published ticks k := by
  rw [published, h]
  rfl

theorem Current.next (h : Current ticks k) : Current ticks (k + 1) := by
  by_cases hknown : (ticks k).Known
  · have hselections := selections_of_known hknown
    obtain ⟨-, -, hname, hvalue⟩ := (run ticks k).tick_known hknown
    refine ⟨fun i => ?_, ?_, fun hnil => ?_, fun p hp => ?_⟩
    · rcases tick_publish hknown (h.reaches (ticks k).node (ticks k).topic) with
        ⟨-, hnodes, -⟩ | ⟨-, hnodes, -⟩
      · rw [run, hnodes]
        by_cases hi : i = (ticks k).node
        · subst hi
          rw [Function.update_self]
          exact .inr rfl
        · rw [Function.update_of_ne hi]
          exact h.publishers i
      · rw [run, hnodes]
        exact h.publishers i
    · rw [hselections]
      exact List.forall_mem_cons.2 ⟨selection_known hknown, h.known⟩
    · rw [hselections] at hnil
      exact absurd hnil (List.cons_ne_nil _ _)
    · rw [hselections, List.head?_cons, Option.mem_some_iff] at hp
      subst hp
      exact ⟨hname, hvalue⟩
  · have hselections := selections_of_unknown hknown
    have hrun := run_unknown hknown
    exact ⟨by rw [hrun]; exact h.publishers, by rw [hselections]; exact h.known,
      by rw [hselections, hrun]; exact h.unselected, by rw [hselections, hrun]; exact h.selected⟩

theorem current (ticks : ℕ → ModeTick ι) (k : ℕ) : Current ticks k := by
  induction k with
  | zero => exact ⟨fun _ => .inl rfl, by simp [selections], fun _ => rfl, by simp [selections]⟩
  | succ k ih => exact ih.next

/-- While the topics agree with the selections, a tick leaves its topic with its mode just
    when it publishes it, or its topic has heard it. -/
theorem Agree.hasMode_iff_heard (h : Agree ticks k) : HasMode ticks k ↔ Heard ticks k := by
  by_cases hknown : (ticks k).Known
  · have hcurrent := current ticks k
    obtain ⟨-, hselects⟩ := (run ticks k).tick_known hknown
    have hsame := hcurrent.same_iff (selection_known hknown)
    rcases tick_publish hknown (hcurrent.reaches (ticks k).node (ticks k).topic) with
      ⟨hmsg, -, hother⟩ | ⟨hmsg, -, hsame'⟩
    · refine iff_of_true (fun name hname => ?_) fun _ hlast => absurd (hsame.2 hlast) hother
      rw [published_of_message hmsg, List.lookup_cons_self, hselects.unique hname]
    · -- nothing is published: the topic has the mode if and only if it had it
      have hlookup : (published ticks (k + 1)).lookup (ticks k).topic =
          ((selections ticks k).lookup (ticks k).topic).map modeToValue := by
        rw [published_of_silent hmsg, h]
      constructor
      · intro hhas _ _
        have hvalue := hhas _ hselects
        rw [hlookup, Option.map_eq_some_iff] at hvalue
        obtain ⟨name, hname, hvalue⟩ := hvalue
        obtain ⟨newer, older, hs, -⟩ := List.lookup_eq_some_iff.1 hname
        have hmem : ((ticks k).topic, name) ∈ selections ticks k := by simp [hs]
        have hnameKnown : 0 ≤ modeToValue name := hcurrent.known _ hmem
        rw [hname, SetSentryMode.modeToValue_inj hnameKnown hvalue]
      · intro hheard name hname
        rw [hlookup, hheard hknown (hsame.1 hsame'), hselects.unique hname]
        rfl
  · exact iff_of_true (fun name hname => absurd hname.known hknown) fun hk => absurd hk hknown

/-- A tick that leaves its topic with its mode keeps the agreement. -/
theorem Agree.next (h : Agree ticks k) (hhas : HasMode ticks k) : Agree ticks (k + 1) := by
  by_cases hknown : (ticks k).Known
  · have hselections := selections_of_known hknown
    obtain ⟨-, hselects⟩ := (run ticks k).tick_known hknown
    intro topic
    by_cases htopic : topic = (ticks k).topic
    · rw [hselections, htopic, hhas _ hselects, List.lookup_cons_self]
      rfl
    · -- the other topics are as before
      have hne : (topic == (ticks k).topic) = false := beq_false_of_ne htopic
      rw [hselections, List.lookup_cons, hne, ← h]
      rcases tick_publish hknown ((current ticks k).reaches (ticks k).node (ticks k).topic) with
        ⟨hmsg, -⟩ | ⟨hmsg, -⟩
      · rw [published_of_message hmsg, List.lookup_cons, hne]
      · rw [published_of_silent hmsg]
  · intro topic
    have hmsg : ((run ticks k).tick (ticks k)).2.2 = none := by rw [tick_unknown _ hknown]
    rw [published_of_silent hmsg, selections_of_unknown hknown]
    exact h topic

/-- As long as every tick leaves its topic with its mode, the topics agree with the
    selections. -/
theorem agrees (h : ∀ j < k, HasMode ticks j) : Agree ticks k := by
  induction k with
  | zero => exact fun _ => rfl
  | succ k ih =>
    have hk : Agree ticks k := ih fun j hj => h j (hj.trans (Nat.lt_succ_self k))
    exact hk.next (h k (Nat.lt_succ_self k))

theorem hasMode_of_heard (h : ∀ k, Heard ticks k) (k : ℕ) : HasMode ticks k := by
  induction k using Nat.strongRecOn with
  | ind k ih => exact (agrees ih).hasMode_iff_heard.2 (h k)

/-- All ticks of a run leave their topics with their modes just when every tick that selects
    the mode selected last is on a topic whose last tick selected it. -/
theorem hasMode_iff (ticks : ℕ → ModeTick ι) :
    (∀ k name, (run ticks k).Selects (ticks k) name →
      (published ticks (k + 1)).lookup (ticks k).topic = some (modeToValue name)) ↔
        ∀ k, Heard ticks k := by
  constructor
  · intro h k
    have hk : Agree ticks k := agrees fun j _ => h j
    exact hk.hasMode_iff_heard.1 (h k)
  · exact hasMode_of_heard

end Topics

/-- A node selects the mode move on one topic, then on another one. -/
def moveOnTwo (k : ℕ) : ModeTick Unit := ⟨(), "move", if k = 0 then "/a" else "/b", false, 0⟩

/-- The second tick succeeds, and its topic has no message. -/
theorem not_hasMode_other :
    ¬∀ ticks : ℕ → ModeTick Unit, (∀ i j, i ≤ j → (ticks i).now ≤ (ticks j).now) →
      ∀ k name, (run ticks k).Selects (ticks k) name →
        (published ticks (k + 1)).lookup (ticks k).topic = some (modeToValue name) := by
  intro h
  have hselects : (run moveOnTwo 1).Selects (moveOnTwo 1) "move" := by
    refine ⟨?_, ?_, ?_⟩ <;> decide +kernel
  have hmode := h moveOnTwo (fun _ _ _ => le_rfl) 1 "move" hselects
  revert hmode
  decide +kernel

end ModeSystem

end Sentry.Behavior
