import Mathlib.Algebra.Order.Field.Rat
import Mathlib.Tactic.Linarith
import Sentry.Behavior.SentryMode

/-!
# The override of the sentry mode

Nodes `SetSentryMode` that share the blackboard of the program, ticked in any order
(`ModeSystem`). A run is a sequence of ticks, which gives the system before each of
them; a finite one is the start of an infinite one.

A mode that is requested for too long is overridden by its fallback for a few seconds.
What the blackboard says about it is where it comes from: the desired mode from the last
tick that changed it or ended an override, the override from the tick that started it
(`History`). So the override follows its rules in every run (`disciplined`).
-/

namespace Sentry.Behavior

open BehaviorTree (Status)

/-! ## Systems of nodes -/

/-- A tick of a node, with the values of its ports, and the time. -/
structure ModeTick (ι : Type*) where
  node : ι
  mode : String
  modeTopic : String
  enableAutoFallback : Bool
  now : ℚ

/-- Some nodes, and the entries of the blackboard about the mode. -/
structure ModeSystem (ι : Type*) where
  nodes : ι → SetSentryMode := fun _ => {}
  board : ModeBoard := {}

variable {ι : Type*}

/-- The mode that a tick requests; an empty one counts as defense. -/
def ModeTick.name (t : ModeTick ι) : String := if t.mode = "" then "defense" else t.mode

/-- No tick requests an empty mode. -/
theorem ModeTick.name_ne (t : ModeTick ι) : t.name ≠ "" := by
  rw [ModeTick.name]
  split
  · decide
  · assumption

/-- The topic of a tick; an empty one counts as the topic of the mode command. -/
def ModeTick.topic (t : ModeTick ι) : String :=
  if t.modeTopic = "" then "/sentry_mode_cmd" else t.modeTopic

/-- The mode that a tick requests is known. -/
def ModeTick.Known (t : ModeTick ι) : Prop := 0 ≤ SetSentryMode.modeToValue t.name

instance (t : ModeTick ι) : Decidable t.Known := inferInstanceAs (Decidable (_ ≤ _))

namespace ModeSystem

variable [DecidableEq ι]

/-- A tick of one of the nodes: its status, the system after it, and the message it
    publishes. -/
def tick (s : ModeSystem ι) (t : ModeTick ι) : Status × ModeSystem ι × Option (String × ℤ) :=
  let (status, node, board, msg) :=
    (s.nodes t.node).tick s.board t.mode t.modeTopic t.enableAutoFallback t.now
  (status, ⟨Function.update s.nodes t.node node, board⟩, msg)

/-- The system before each tick. -/
def run (ticks : ℕ → ModeTick ι) : ℕ → ModeSystem ι
  | 0 => {}
  | k + 1 => ((run ticks k).tick (ticks k)).2.1

/-- The mode that a tick for a known mode selects. -/
def selection (s : ModeSystem ι) (t : ModeTick ι) : String :=
  (SetSentryMode.select s.board t.name t.enableAutoFallback t.now).1

/-- A tick selects a mode: it succeeds, and the mode on the blackboard is this one. -/
def Selects (s : ModeSystem ι) (t : ModeTick ι) (name : String) : Prop :=
  (s.tick t).1 = .success ∧ (s.tick t).2.1.board.currentSentryModeName = name ∧
    (s.tick t).2.1.board.currentSentryMode = SetSentryMode.modeToValue name

/-- All nodes that have a publisher have it on a topic. -/
def PublishesOn (s : ModeSystem ι) (topic : String) : Prop :=
  ∀ i, (s.nodes i).modePub = none ∨ (s.nodes i).modePub = some topic

end ModeSystem

/-! ## Ticks -/

namespace SetSentryMode

/-- The known modes. -/
theorem known_cases {modeName : String} (h : 0 ≤ modeToValue modeName) :
    modeName = "move" ∨ modeName = "attack" ∨ modeName = "defense" := by
  by_contra hnot
  rw [not_or, not_or] at hnot
  obtain ⟨hmove, hattack, hdefense⟩ := hnot
  rw [modeToValue, if_neg hmove, if_neg hattack, if_neg hdefense] at h
  exact absurd h (by decide)

theorem modeToValue_fallback (modeName : String) : 0 ≤ modeToValue (fallbackModeFor modeName) := by
  rw [fallbackModeFor]
  split <;> decide

/-- What a choice can be: the end of an override, the rest of one, the start of one, or the
    mode that was requested. -/
inductive Choice (board : ModeBoard) (modeName : String) (enableAutoFallback : Bool) (now : ℚ) :
    String → ModeBoard → Prop
  | finish {board' : ModeBoard} : board.sentryModeOverrideActive = true →
      5 ≤ now - board.sentryModeOverrideStartedAt →
      board'.desiredSentryModeName = modeName → board'.desiredSentryModeStartedAt = now →
      board'.sentryModeOverrideActive = false → board'.sentryModeOverrideName = "" →
      Choice board modeName enableAutoFallback now modeName board'
  | hold {board' : ModeBoard} : board.sentryModeOverrideActive = true →
      now - board.sentryModeOverrideStartedAt < 5 →
      board'.desiredSentryModeName = modeName →
      (board'.desiredSentryModeStartedAt = now ∨ board.desiredSentryModeName = modeName ∧
        board'.desiredSentryModeStartedAt = board.desiredSentryModeStartedAt) →
      board'.sentryModeOverrideActive = true →
      board'.sentryModeOverrideStartedAt = board.sentryModeOverrideStartedAt →
      board'.sentryModeOverrideName = board.sentryModeOverrideName →
      Choice board modeName enableAutoFallback now board.sentryModeOverrideName board'
  | start {board' : ModeBoard} : board.sentryModeOverrideActive = false →
      enableAutoFallback = true → board.desiredSentryModeName = modeName →
      180 ≤ now - board.desiredSentryModeStartedAt →
      board'.desiredSentryModeName = modeName →
      board'.desiredSentryModeStartedAt = board.desiredSentryModeStartedAt →
      board'.sentryModeOverrideActive = true → board'.sentryModeOverrideStartedAt = now →
      board'.sentryModeOverrideName = fallbackModeFor modeName →
      Choice board modeName enableAutoFallback now (fallbackModeFor modeName) board'
  | request {board' : ModeBoard} : board.sentryModeOverrideActive = false →
      board'.desiredSentryModeName = modeName →
      (board'.desiredSentryModeStartedAt = now ∨ board.desiredSentryModeName = modeName ∧
        board'.desiredSentryModeStartedAt = board.desiredSentryModeStartedAt) →
      board'.sentryModeOverrideActive = false →
      board'.sentryModeOverrideName = board.sentryModeOverrideName →
      Choice board modeName enableAutoFallback now modeName board'

/-- Values for the current mode do not change a choice. -/
theorem Choice.current {board board' : ModeBoard} {modeName name : String}
    {enableAutoFallback : Bool} {now : ℚ}
    (h : Choice board modeName enableAutoFallback now name board') (value : ℤ) (current : String) :
    Choice board modeName enableAutoFallback now name
      { board' with currentSentryMode := value, currentSentryModeName := current } := by
  cases h with
  | finish hact hover hd hs ha hn => exact .finish hact hover hd hs ha hn
  | hold hact hover hd hs ha ht hn => exact .hold hact hover hd hs ha ht hn
  | start hact henable hsame hlong hd hs ha ht hn =>
    exact .start hact henable hsame hlong hd hs ha ht hn
  | request hact hd hs ha hn => exact .request hact hd hs ha hn

theorem select_choice (board : ModeBoard) (modeName : String) (enableAutoFallback : Bool)
    (now : ℚ) :
    Choice board modeName enableAutoFallback now (select board modeName enableAutoFallback now).1
      (select board modeName enableAutoFallback now).2 := by
  rw [select]
  by_cases hd : board.desiredSentryModeName = modeName
  · simp only [ne_eq, hd, not_true_eq_false, if_false]
    cases hact : board.sentryModeOverrideActive with
    | true =>
      by_cases hover : overrideDurationSec ≤ now - board.sentryModeOverrideStartedAt
      · rw [if_pos rfl, if_pos hover]
        exact .finish hact hover rfl rfl rfl rfl
      · rw [if_pos rfl, if_neg hover]
        exact .hold hact (not_le.1 hover) hd (.inr ⟨hd, rfl⟩) hact rfl rfl
    | false =>
      rw [if_neg Bool.false_ne_true]
      by_cases hlong : enableAutoFallback = true ∧
          maxModeDurationSec ≤ now - board.desiredSentryModeStartedAt
      · rw [if_pos hlong]
        exact .start hact hlong.1 hd hlong.2 rfl rfl rfl rfl rfl
      · rw [if_neg hlong]
        exact .request hact hd (.inr ⟨hd, rfl⟩) hact rfl
  · simp only [ne_eq, hd, not_false_eq_true, if_true]
    cases hact : board.sentryModeOverrideActive with
    | true =>
      by_cases hover : overrideDurationSec ≤ now - board.sentryModeOverrideStartedAt
      · rw [if_pos rfl, if_pos hover]
        exact .finish hact hover rfl rfl rfl rfl
      · rw [if_pos rfl, if_neg hover]
        exact .hold hact (not_le.1 hover) rfl (.inl rfl) rfl rfl rfl
    | false =>
      -- the desired mode starts now, too late for an override
      have hlong : ¬ (enableAutoFallback = true ∧ maxModeDurationSec ≤ now - now) := by
        rw [sub_self]
        exact fun h => absurd h.2 (by decide)
      rw [if_neg Bool.false_ne_true, if_neg hlong]
      exact .request hact rfl (.inl rfl) rfl rfl

/-- The desired mode after a choice: the one requested, since now or since it was
    requested first. -/
theorem Choice.desired {board board' : ModeBoard} {modeName name : String}
    {enableAutoFallback : Bool} {now : ℚ}
    (h : Choice board modeName enableAutoFallback now name board') :
    board'.desiredSentryModeName = modeName ∧
      (board'.desiredSentryModeStartedAt = now ∨
        board.desiredSentryModeName = modeName ∧
          board'.desiredSentryModeStartedAt = board.desiredSentryModeStartedAt ∧
          (board.sentryModeOverrideActive = true → board'.sentryModeOverrideActive = true)) := by
  cases h with
  | finish _ _ hd hs => exact ⟨hd, .inl hs⟩
  | hold _ _ hd hs ha => exact ⟨hd, hs.imp_right fun h => ⟨h.1, h.2, fun _ => ha⟩⟩
  | start _ _ hsame _ hd hs ha => exact ⟨hd, .inr ⟨hsame, hs, fun _ => ha⟩⟩
  | request hact hd hs =>
    exact ⟨hd, hs.imp_right fun h => ⟨h.1, h.2, fun ha => absurd (hact.symm.trans ha) (by decide)⟩⟩

/-- The mode chosen is known if the one requested is and those of overrides are, and an
    override after the choice has a known mode again. -/
theorem Choice.known {board board' : ModeBoard} {modeName name : String}
    {enableAutoFallback : Bool} {now : ℚ}
    (h : Choice board modeName enableAutoFallback now name board')
    (hknown : 0 ≤ modeToValue modeName)
    (hover : board.sentryModeOverrideActive = true → 0 ≤ modeToValue board.sentryModeOverrideName) :
    0 ≤ modeToValue name ∧
      (board'.sentryModeOverrideActive = true → 0 ≤ modeToValue board'.sentryModeOverrideName) := by
  cases h with
  | finish _ _ _ _ ha =>
    exact ⟨hknown, fun hact => absurd (ha.symm.trans hact) Bool.false_ne_true⟩
  | hold hact _ _ _ _ _ hname =>
    rw [hname]
    exact ⟨hover hact, fun _ => hover hact⟩
  | start _ _ _ _ _ _ _ _ hname =>
    rw [hname]
    exact ⟨modeToValue_fallback _, fun _ => modeToValue_fallback _⟩
  | request _ _ _ ha =>
    exact ⟨hknown, fun hact => absurd (ha.symm.trans hact) Bool.false_ne_true⟩

/-- A choice leaves the current mode as it is. -/
theorem select_current (board : ModeBoard) (modeName : String) (enableAutoFallback : Bool)
    (now : ℚ) :
    (select board modeName enableAutoFallback now).2.currentSentryMode =
        board.currentSentryMode ∧
      (select board modeName enableAutoFallback now).2.currentSentryModeName =
        board.currentSentryModeName := by
  simp only [select]
  by_cases hd : board.desiredSentryModeName ≠ modeName
  · rw [if_pos hd]
    split <;> split <;> exact ⟨rfl, rfl⟩
  · rw [if_neg hd]
    split <;> split <;> exact ⟨rfl, rfl⟩

theorem publish_board (node : SetSentryMode) (board : ModeBoard)
    (publishModeName modeTopic : String) :
    (publish node board publishModeName modeTopic).2.1 =
      { board with
        currentSentryMode := modeToValue publishModeName
        currentSentryModeName := publishModeName } := by
  simp only [publish]
  split
  · next h => rw [← h.1, ← h.2]
  · rfl

/-- The node can publish on the topic: it has no publisher yet, or makes a new one for the
    topic, or has one on the topic. -/
def Reaches (node : SetSentryMode) (modeTopic : String) : Prop :=
  node.modePub = none ∨ modeTopic ≠ node.currentTopic ∨ node.modePub = some modeTopic

/-- A node publishes the mode on the topic, and has its publisher there; or the blackboard
    has the mode already, and it does nothing. -/
theorem publish_message {node : SetSentryMode} {modeTopic : String}
    (hpub : node.Reaches modeTopic) (board : ModeBoard) (publishModeName : String) :
    ((publish node board publishModeName modeTopic).2.2 =
        some (modeTopic, modeToValue publishModeName) ∧
      (publish node board publishModeName modeTopic).1 = ⟨some modeTopic, modeTopic⟩ ∧
      ¬(board.currentSentryMode = modeToValue publishModeName ∧
        board.currentSentryModeName = publishModeName)) ∨
    ((publish node board publishModeName modeTopic).2.2 = none ∧
      (publish node board publishModeName modeTopic).1 = node ∧
      board.currentSentryMode = modeToValue publishModeName ∧
      board.currentSentryModeName = publishModeName) := by
  simp only [publish]
  split
  next hsame => exact .inr ⟨rfl, rfl, hsame⟩
  next hother =>
    refine .inl ?_
    split
    next => exact ⟨rfl, rfl, hother⟩
    next hold =>
      -- the publisher is kept: it is there, and on the topic
      rw [not_or, not_not] at hold
      obtain ⟨hsome, htopic⟩ := hold
      have hmodePub : node.modePub = some modeTopic :=
        (hpub.resolve_left hsome).resolve_left fun hne => hne htopic
      have hnode : node = ⟨some modeTopic, modeTopic⟩ := by
        rw [← hmodePub, htopic]
      exact ⟨by rw [hmodePub]; rfl, hnode, hother⟩

end SetSentryMode

namespace ModeSystem

variable [DecidableEq ι]

/-- A tick for an unknown mode fails, and changes nothing. -/
theorem tick_unknown (s : ModeSystem ι) {t : ModeTick ι} (h : ¬ t.Known) :
    s.tick t = (.failure, s, none) := by
  have hneg : SetSentryMode.modeToValue (if t.mode = "" then "defense" else t.mode) < 0 :=
    not_le.1 h
  simp only [tick, SetSentryMode.tick, if_pos hneg, Function.update_eq_self]

/-- A tick for a known mode selects a mode. -/
theorem tick_known (s : ModeSystem ι) {t : ModeTick ι} (h : t.Known) :
    SetSentryMode.Choice s.board t.name t.enableAutoFallback t.now (s.selection t)
      (s.tick t).2.1.board ∧ s.Selects t (s.selection t) := by
  have hnot : ¬ SetSentryMode.modeToValue (if t.mode = "" then "defense" else t.mode) < 0 :=
    not_lt.2 h
  refine ⟨?_, ?_⟩
  · simp only [tick, SetSentryMode.tick, if_neg hnot, SetSentryMode.publish_board]
    exact (SetSentryMode.select_choice _ _ _ _).current _ _
  · simp only [Selects, tick, SetSentryMode.tick, if_neg hnot, SetSentryMode.publish_board]
    exact ⟨trivial, rfl, rfl⟩

/-- A tick selects one mode. -/
theorem Selects.unique {s : ModeSystem ι} {t : ModeTick ι} {name name' : String}
    (h : s.Selects t name) (h' : s.Selects t name') : name = name' :=
  h.2.1.symm.trans h'.2.1

/-- A tick that selects a mode requests a known one. -/
theorem Selects.known {s : ModeSystem ι} {t : ModeTick ι} {name : String}
    (h : s.Selects t name) : t.Known := by
  by_contra hunknown
  have hsuccess := h.1
  rw [tick_unknown s hunknown] at hsuccess
  exact BehaviorTree.Status.noConfusion hsuccess

/-- A tick of a node that can publish on its topic: the mode selected is published there, by
    a node with its publisher there; or the blackboard has it already, and nothing is. -/
theorem tick_publish {s : ModeSystem ι} {t : ModeTick ι} (h : t.Known)
    (hpub : (s.nodes t.node).Reaches t.topic) :
    ((s.tick t).2.2 = some (t.topic, SetSentryMode.modeToValue (s.selection t)) ∧
      (s.tick t).2.1.nodes = Function.update s.nodes t.node ⟨some t.topic, t.topic⟩ ∧
      ¬(s.board.currentSentryMode = SetSentryMode.modeToValue (s.selection t) ∧
        s.board.currentSentryModeName = s.selection t)) ∨
    ((s.tick t).2.2 = none ∧ (s.tick t).2.1.nodes = s.nodes ∧
      s.board.currentSentryMode = SetSentryMode.modeToValue (s.selection t) ∧
      s.board.currentSentryModeName = s.selection t) := by
  have hnot : ¬ SetSentryMode.modeToValue (if t.mode = "" then "defense" else t.mode) < 0 :=
    not_lt.2 h
  obtain ⟨hvalue, hname⟩ :=
    SetSentryMode.select_current s.board t.name t.enableAutoFallback t.now
  have hmsg := SetSentryMode.publish_message hpub
    (SetSentryMode.select s.board t.name t.enableAutoFallback t.now).2 (s.selection t)
  rw [hvalue, hname] at hmsg
  simp only [tick, SetSentryMode.tick, if_neg hnot]
  refine hmsg.imp (fun ⟨hmsg, hnode, hother⟩ => ⟨hmsg, ?_, hother⟩)
    fun ⟨hmsg, hnode, hsame⟩ => ⟨hmsg, ?_, hsame⟩
  · exact congrArg (Function.update s.nodes t.node) hnode
  · exact (congrArg (Function.update s.nodes t.node) hnode).trans (Function.update_eq_self _ _)

/-- A tick on a topic, while all publishers are on it: the mode selected is published there,
    unless the blackboard has it already, and all publishers stay on the topic. -/
theorem tick_message {s : ModeSystem ι} {t : ModeTick ι} (h : t.Known)
    (hpub : s.PublishesOn t.topic) :
    ((s.tick t).2.2 = some (t.topic, SetSentryMode.modeToValue (s.selection t)) ∨
      (s.tick t).2.2 = none ∧
        s.board.currentSentryMode = SetSentryMode.modeToValue (s.selection t) ∧
        s.board.currentSentryModeName = s.selection t) ∧
    (s.tick t).2.1.PublishesOn t.topic := by
  rcases tick_publish h ((hpub t.node).imp_right .inr) with
    ⟨hmsg, hnodes, -⟩ | ⟨hmsg, hnodes, hsame⟩
  · refine ⟨.inl hmsg, fun i => ?_⟩
    rw [hnodes]
    by_cases hi : i = t.node
    · subst hi
      rw [Function.update_self]
      exact .inr rfl
    · rw [Function.update_of_ne hi]
      exact hpub i
  · refine ⟨.inr ⟨hmsg, hsame⟩, ?_⟩
    rw [PublishesOn, hnodes]
    exact hpub

/-! ## Where the entries come from -/

section Runs

variable (ticks : ℕ → ModeTick ι)

/-- An override is active before the tick `k`. -/
def Active (k : ℕ) : Prop := (run ticks k).board.sentryModeOverrideActive = true

/-- An override starts in the tick `k`. -/
def Starts (k : ℕ) : Prop := ¬ Active ticks k ∧ Active ticks (k + 1)

/-- Before the tick `k`, the desired mode has been requested since the tick `i`, with no
    override since, unless there is one now. -/
structure DesiredSince (i k : ℕ) : Prop where
  lt : i < k
  known : (ticks i).Known
  startedAt : (run ticks k).board.desiredSentryModeStartedAt = (ticks i).now
  name : ∀ j, i ≤ j → j < k → (ticks j).Known →
    (ticks j).name = (run ticks k).board.desiredSentryModeName
  inactive : ¬ Active ticks k → ∀ j, i < j → j ≤ k → ¬ Active ticks j

/-- Before the tick `k`, the override is the one that started in the tick `i`. -/
structure OverrideSince (i k : ℕ) : Prop where
  lt : i < k
  starts : Starts ticks i
  startedAt : (run ticks k).board.sentryModeOverrideStartedAt = (ticks i).now
  name : (run ticks k).board.sentryModeOverrideName =
    SetSentryMode.fallbackModeFor (ticks i).name

/-- Where the entries of the blackboard come from. -/
structure History (k : ℕ) : Prop where
  desired : (run ticks k).board.desiredSentryModeName = "" ∨ ∃ i, DesiredSince ticks i k
  active : Active ticks k → ∃ i, OverrideSince ticks i k
  inactive : ¬ Active ticks k → (run ticks k).board.sentryModeOverrideName = ""

variable {ticks} {k : ℕ}

theorem not_active (h : (run ticks k).board.sentryModeOverrideActive = false) :
    ¬ Active ticks k := by
  rw [Active, h]
  exact Bool.false_ne_true

theorem run_unknown (h : ¬ (ticks k).Known) : run ticks (k + 1) = run ticks k := by
  rw [run, tick_unknown _ h]

/-- A known tick of a run is a choice. -/
theorem run_choice (h : (ticks k).Known) :
    ∃ name, SetSentryMode.Choice (run ticks k).board (ticks k).name (ticks k).enableAutoFallback
      (ticks k).now name (run ticks (k + 1)).board ∧ (run ticks k).Selects (ticks k) name :=
  ⟨_, tick_known _ h⟩

/-- A tick that restarts the time of the desired mode. -/
theorem DesiredSince.restart (hknown : (ticks k).Known)
    (hd : (run ticks (k + 1)).board.desiredSentryModeName = (ticks k).name)
    (hs : (run ticks (k + 1)).board.desiredSentryModeStartedAt = (ticks k).now) :
    DesiredSince ticks k (k + 1) where
  lt := Nat.lt_succ_self k
  known := hknown
  startedAt := hs
  name j hj hjk _ := by
    rw [hd, le_antisymm (Nat.le_of_lt_succ hjk) hj]
  inactive hact j hj hjk := by
    rwa [le_antisymm hjk hj]

/-- A tick that requests the desired mode once more, and does not end an override. -/
theorem DesiredSince.next {i : ℕ} (hi : DesiredSince ticks i k)
    (hd : (run ticks (k + 1)).board.desiredSentryModeName =
      (run ticks k).board.desiredSentryModeName)
    (hs : (run ticks (k + 1)).board.desiredSentryModeStartedAt =
      (run ticks k).board.desiredSentryModeStartedAt)
    (hname : (ticks k).Known → (ticks k).name = (run ticks k).board.desiredSentryModeName)
    (hact : Active ticks k → Active ticks (k + 1)) : DesiredSince ticks i (k + 1) where
  lt := hi.lt.trans (Nat.lt_succ_self k)
  known := hi.known
  startedAt := hs.trans hi.startedAt
  name j hj hjk hknown := by
    rw [hd]
    rcases Nat.lt_succ_iff_lt_or_eq.1 hjk with hlt | rfl
    · exact hi.name j hj hlt hknown
    · exact hname hknown
  inactive hnot j hj hjk := by
    rcases Nat.le_succ_iff.1 hjk with hle | rfl
    · exact hi.inactive (mt hact hnot) j hj hle
    · exact hnot

/-- A tick that keeps the override. -/
theorem OverrideSince.next {i : ℕ} (hi : OverrideSince ticks i k)
    (hs : (run ticks (k + 1)).board.sentryModeOverrideStartedAt =
      (run ticks k).board.sentryModeOverrideStartedAt)
    (hname : (run ticks (k + 1)).board.sentryModeOverrideName =
      (run ticks k).board.sentryModeOverrideName) : OverrideSince ticks i (k + 1) where
  lt := hi.lt.trans (Nat.lt_succ_self k)
  starts := hi.starts
  startedAt := hs.trans hi.startedAt
  name := hname.trans hi.name

theorem History.desired_next (h : History ticks k) (hknown : (ticks k).Known) :
    ∃ i, DesiredSince ticks i (k + 1) := by
  obtain ⟨name, hchoice, -⟩ := run_choice hknown
  obtain ⟨hd, hs | ⟨hsame, hs, hact⟩⟩ := hchoice.desired
  · exact ⟨k, .restart hknown hd hs⟩
  · -- the desired mode is empty only before the first known tick
    rcases h.desired with hempty | ⟨i, hi⟩
    · exact absurd (hsame.symm.trans hempty) (ticks k).name_ne
    · exact ⟨i, hi.next (hd.trans hsame.symm) hs (fun _ => hsame.symm) hact⟩

/-- A tick keeps the history. -/
theorem History.next (h : History ticks k) : History ticks (k + 1) := by
  by_cases hknown : (ticks k).Known
  · obtain ⟨name, hchoice, -⟩ := run_choice hknown
    refine ⟨.inr (h.desired_next hknown), ?_, ?_⟩
    · intro hnext
      cases hchoice with
      | finish _ _ _ _ ha => exact absurd hnext (not_active ha)
      | hold hact _ _ _ _ hs hname =>
        obtain ⟨i, hi⟩ := h.active hact
        exact ⟨i, hi.next hs hname⟩
      | start hact _ _ _ _ _ _ hs hname =>
        exact ⟨k, Nat.lt_succ_self k, ⟨not_active hact, hnext⟩, hs, hname⟩
      | request _ _ _ ha => exact absurd hnext (not_active ha)
    · intro hnext
      cases hchoice with
      | finish _ _ _ _ _ hname => exact hname
      | hold _ _ _ _ ha => exact absurd ha hnext
      | start _ _ _ _ _ _ ha => exact absurd ha hnext
      | request hact _ _ _ hname =>
        rw [hname]
        exact h.inactive (not_active hact)
  · -- an unknown mode changes nothing, so the history stays
    have heq := run_unknown hknown
    constructor
    · rw [heq]
      refine h.desired.imp_right fun ⟨i, hi⟩ =>
        ⟨i, hi.next (by rw [heq]) (by rw [heq]) (fun hk => absurd hk hknown) ?_⟩
      rw [Active, Active, heq]
      exact id
    · rw [Active, heq]
      intro hact
      obtain ⟨i, hi⟩ := h.active hact
      exact ⟨i, hi.next (by rw [heq]) (by rw [heq])⟩
    · rw [Active, heq]
      exact h.inactive

theorem history (ticks : ℕ → ModeTick ι) (k : ℕ) : History ticks k := by
  induction k with
  | zero =>
    exact ⟨.inl rfl, fun h => absurd h Bool.false_ne_true, fun _ => rfl⟩
  | succ k ih => exact ih.next

/-! ## The length of an override -/

/-- The override that starts in the tick `k` is the one before the tick `j`. -/
def During (ticks : ℕ → ModeTick ι) (k j : ℕ) : Prop :=
  Active ticks j ∧ (run ticks j).board.sentryModeOverrideStartedAt = (ticks k).now ∧
    (run ticks j).board.sentryModeOverrideName = SetSentryMode.fallbackModeFor (ticks k).name

/-- The tick that starts an override: its mode is known, and has been requested long
    enough, and its fallback is selected. -/
theorem Starts.choice (h : Starts ticks k) :
    (ticks k).Known ∧ (ticks k).enableAutoFallback = true ∧
      (run ticks k).board.desiredSentryModeName = (ticks k).name ∧
      180 ≤ (ticks k).now - (run ticks k).board.desiredSentryModeStartedAt ∧
      During ticks k (k + 1) ∧
      (run ticks k).Selects (ticks k) (SetSentryMode.fallbackModeFor (ticks k).name) := by
  obtain ⟨hnot, hnext⟩ := h
  have hknown : (ticks k).Known := by
    by_contra hunknown
    rw [Active, run_unknown hunknown] at hnext
    exact hnot hnext
  obtain ⟨name, hchoice, hselects⟩ := run_choice hknown
  cases hchoice with
  | finish hact => exact absurd hact hnot
  | hold hact => exact absurd hact hnot
  | start _ henable hsame hlong _ _ _ hs hname =>
    exact ⟨hknown, henable, hsame, hlong, ⟨hnext, hs, hname⟩, hselects⟩
  | request _ _ _ ha => exact absurd hnext (not_active ha)

/-- A known tick during an override, less than five seconds after its start. -/
theorem During.hold {j : ℕ} (h : During ticks k j) (hknown : (ticks j).Known)
    (hnow : (ticks j).now < (ticks k).now + 5) :
    During ticks k (j + 1) ∧
      (run ticks j).Selects (ticks j) (SetSentryMode.fallbackModeFor (ticks k).name) := by
  obtain ⟨hact, hs, hname⟩ := h
  obtain ⟨name, hchoice, hselects⟩ := run_choice hknown
  cases hchoice with
  | finish _ hover =>
    rw [hs] at hover
    linarith
  | hold _ _ _ _ ha hs' hname' =>
    rw [hname] at hselects
    exact ⟨⟨ha, hs'.trans hs, hname'.trans hname⟩, hselects⟩
  | start hnot => exact absurd hact (not_active hnot)
  | request hnot => exact absurd hact (not_active hnot)

/-- A known tick during an override, five seconds after its start. -/
theorem During.finish {j : ℕ} (h : During ticks k j) (hknown : (ticks j).Known)
    (hnow : (ticks k).now + 5 ≤ (ticks j).now) :
    ¬ Active ticks (j + 1) ∧ (run ticks j).Selects (ticks j) (ticks j).name := by
  obtain ⟨hact, hs, hname⟩ := h
  obtain ⟨name, hchoice, hselects⟩ := run_choice hknown
  cases hchoice with
  | finish _ _ _ _ ha => exact ⟨not_active ha, hselects⟩
  | hold _ hover =>
    rw [hs] at hover
    linarith
  | start hnot => exact absurd hact (not_active hnot)
  | request hnot => exact absurd hact (not_active hnot)

/-- An override goes on as long as every known tick comes less than five seconds after its
    start. -/
theorem Starts.during (h : Starts ticks k) {j : ℕ} (hkj : k < j)
    (hnow : ∀ i, k < i → i < j → (ticks i).Known → (ticks i).now < (ticks k).now + 5) :
    During ticks k j := by
  induction j, hkj using Nat.le_induction with
  | base => exact h.choice.2.2.2.2.1
  | succ j hkj ih =>
    have hj := ih fun i hi hij => hnow i hi (hij.trans (Nat.lt_succ_self j))
    -- a known tick that comes in time holds the override, an unknown one changes nothing
    by_cases hknown : (ticks j).Known
    · exact (hj.hold hknown (hnow j hkj (Nat.lt_succ_self j) hknown)).1
    · rw [During, Active, run_unknown hknown]
      exact hj

/-! ## The rules of the override -/

/-- The rules of the override: when it starts, what is selected in its five seconds and in
    the tick that ends it, what is selected otherwise, what the blackboard says about it,
    and what a tick for an unknown mode does. -/
structure Disciplined (ticks : ℕ → ModeTick ι) : Prop where
  start : ∀ k, Starts ticks k → (ticks k).enableAutoFallback = true ∧
    ∃ i < k, (ticks i).Known ∧ (ticks i).now ≤ (ticks k).now - 180 ∧
      (∀ j, i ≤ j → j ≤ k → (ticks j).Known → (ticks j).name = (ticks k).name) ∧
      ∀ j, i < j → j ≤ k → ¬ Active ticks j
  within : ∀ k j, Starts ticks k → k ≤ j → (ticks j).Known →
    (ticks j).now < (ticks k).now + 5 →
    (run ticks j).Selects (ticks j) (SetSentryMode.fallbackModeFor (ticks k).name)
  finish : ∀ k j, Starts ticks k → k < j → (ticks j).Known →
    (ticks k).now + 5 ≤ (ticks j).now →
    (∀ i, k < i → i < j → (ticks i).Known → (ticks i).now < (ticks k).now + 5) →
    (run ticks j).Selects (ticks j) (ticks j).name ∧ Active ticks j ∧ ¬ Active ticks (j + 1)
  other : ∀ j, (ticks j).Known →
    (∀ k, k ≤ j → Starts ticks k → (ticks k).now + 5 ≤ (ticks j).now) →
    (run ticks j).Selects (ticks j) (ticks j).name
  outside : ∀ k, ¬ Active ticks k → (run ticks k).board.sentryModeOverrideName = ""
  inside : ∀ k, Active ticks k →
    0 ≤ SetSentryMode.modeToValue (run ticks k).board.sentryModeOverrideName
  selected : ∀ k, (ticks k).Known → (run ticks (k + 1)).board.currentSentryMode ≠ -1
  unknown : ∀ k, ¬ (ticks k).Known → (run ticks k).tick (ticks k) = (.failure, run ticks k, none)

theorem start_of_starts (h : Starts ticks k) :
    ∃ i < k, (ticks i).Known ∧ (ticks i).now ≤ (ticks k).now - 180 ∧
      (∀ j, i ≤ j → j ≤ k → (ticks j).Known → (ticks j).name = (ticks k).name) ∧
      ∀ j, i < j → j ≤ k → ¬ Active ticks j := by
  obtain ⟨-, -, hsame, hlong, -, -⟩ := h.choice
  rcases (history ticks k).desired with hempty | ⟨i, hi⟩
  · exact absurd (hsame.symm.trans hempty) (ticks k).name_ne
  · refine ⟨i, hi.lt, hi.known, ?_, fun j hij hjk hknown => ?_, hi.inactive h.1⟩
    · rw [hi.startedAt] at hlong
      linarith
    · rcases Nat.lt_or_eq_of_le hjk with hlt | rfl
      · exact (hi.name j hij hlt hknown).trans hsame
      · rfl

/-- The mode of an override is known. -/
theorem override_known (ticks : ℕ → ModeTick ι) (k : ℕ) (h : Active ticks k) :
    0 ≤ SetSentryMode.modeToValue (run ticks k).board.sentryModeOverrideName := by
  induction k with
  | zero => exact absurd h Bool.false_ne_true
  | succ k ih =>
    by_cases hknown : (ticks k).Known
    · obtain ⟨name, hchoice, -⟩ := run_choice hknown
      exact (hchoice.known hknown ih).2 h
    · rw [Active, run_unknown hknown] at h
      rw [run_unknown hknown]
      exact ih h

/-- Outside an override, and five seconds after the start of one, a known tick selects the
    mode it requests. -/
theorem selects_name {j : ℕ} (hknown : (ticks j).Known)
    (hover : ∀ k, k ≤ j → Starts ticks k → (ticks k).now + 5 ≤ (ticks j).now) :
    (run ticks j).Selects (ticks j) (ticks j).name := by
  by_cases hact : Active ticks j
  · -- the override started somewhere, five seconds ago at least
    obtain ⟨i, hi⟩ := (history ticks j).active hact
    have hduring : During ticks i j := ⟨hact, hi.startedAt, hi.name⟩
    exact (hduring.finish hknown (hover i hi.lt.le hi.starts)).2
  · obtain ⟨name, hchoice, hselects⟩ := run_choice hknown
    cases hchoice with
    | finish hact' => exact absurd hact' hact
    | hold hact' => exact absurd hact' hact
    | start _ _ _ _ _ _ ha =>
      -- a start in this tick is not five seconds ago
      have := hover j le_rfl ⟨hact, ha⟩
      linarith
    | request => exact hselects

/-- The mode that a known tick selects is known. -/
theorem selected_known (hknown : (ticks k).Known) :
    0 ≤ (run ticks (k + 1)).board.currentSentryMode := by
  obtain ⟨name, hchoice, -, -, hvalue⟩ := run_choice hknown
  rw [run, hvalue]
  exact (hchoice.known hknown (override_known ticks k)).1

/-- In every run whose times do not decrease, the override follows its rules. -/
theorem disciplined (ticks : ℕ → ModeTick ι)
    (hnow : ∀ i j, i ≤ j → (ticks i).now ≤ (ticks j).now) : Disciplined ticks where
  start k h := ⟨h.choice.2.1, start_of_starts h⟩
  within k j h hkj hknown hj := by
    rcases Nat.lt_or_eq_of_le hkj with hlt | rfl
    · have hduring : During ticks k j :=
        h.during hlt fun i _ hij _ => (hnow i j hij.le).trans_lt hj
      exact (hduring.hold hknown hj).2
    · exact h.choice.2.2.2.2.2
  finish k j h hkj hknown hj hfirst := by
    have hduring : During ticks k j := h.during hkj hfirst
    obtain ⟨hnot, hselects⟩ := hduring.finish hknown hj
    exact ⟨hselects, hduring.1, hnot⟩
  other j hknown hover := selects_name hknown hover
  outside k h := (history ticks k).inactive h
  inside k h := override_known ticks k h
  selected k hknown heq := by
    have := selected_known hknown
    rw [heq] at this
    exact absurd this (by decide)
  unknown k h := tick_unknown _ h

/-- One node that requests one mode every hundred seconds. -/
def everyHundred (k : ℕ) : ModeTick Unit := ⟨(), "move", "", true, 100 * k⟩

theorem disciplined_everyHundred : Starts everyHundred 2 ∧ Disciplined everyHundred := by
  refine ⟨⟨?_, ?_⟩, disciplined _ fun i j hij => ?_⟩
  · rw [Active]
    decide +kernel
  · rw [Active]
    decide +kernel
  · have : (i : ℚ) ≤ j := by exact_mod_cast hij
    simp only [everyHundred]
    linarith

end Runs

end ModeSystem

end Sentry.Behavior
