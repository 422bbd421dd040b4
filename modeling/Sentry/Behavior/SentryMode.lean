import Mathlib.Data.Rat.Defs
import Sentry.BehaviorTree

/-!
# The sentry mode

The node `SetSentryMode`. All the nodes of a tree share the entries of the blackboard
about the mode (`ModeBoard`), which the program initialises; each has a publisher of
its own, for the last topic it published on.
-/

namespace Sentry.Behavior

open BehaviorTree (Status)

/-- The entries of the blackboard about the mode. -/
structure ModeBoard where
  currentSentryMode : ℤ := -1
  currentSentryModeName : String := ""
  desiredSentryModeName : String := ""
  desiredSentryModeStartedAt : ℚ := 0
  sentryModeOverrideActive : Bool := false
  sentryModeOverrideStartedAt : ℚ := 0
  sentryModeOverrideName : String := ""

/-- The state of a node `SetSentryMode`: the topic of its publisher, if it has one. -/
structure SetSentryMode where
  modePub : Option String := none
  currentTopic : String := "/sentry_mode_cmd"

namespace SetSentryMode

/-- `modeToValue` -/
def modeToValue (modeName : String) : ℤ :=
  if modeName = "move" then 3
  else if modeName = "attack" then 1
  else if modeName = "defense" then 2
  else -1

/-- `fallbackModeFor` -/
def fallbackModeFor (modeName : String) : String :=
  if modeName = "defense" then "move" else "defense"

/-- `max_mode_duration_sec_` -/
def maxModeDurationSec : ℚ := 180

/-- `override_duration_sec_` -/
def overrideDurationSec : ℚ := 5

/-- The choice of a mode at the time `now`: its name, and the entries of the blackboard
    about the desired mode and the override. -/
def select (board : ModeBoard) (modeName : String) (enableAutoFallback : Bool) (now : ℚ) :
    String × ModeBoard :=
  let board := if board.desiredSentryModeName ≠ modeName then
    { board with desiredSentryModeName := modeName, desiredSentryModeStartedAt := now } else board
  if board.sentryModeOverrideActive then
    if overrideDurationSec ≤ now - board.sentryModeOverrideStartedAt then
      (modeName, { board with
        sentryModeOverrideActive := false
        sentryModeOverrideName := ""
        desiredSentryModeStartedAt := now })
    else (board.sentryModeOverrideName, board)
  else if enableAutoFallback ∧ maxModeDurationSec ≤ now - board.desiredSentryModeStartedAt then
    (fallbackModeFor modeName, { board with
      sentryModeOverrideActive := true
      sentryModeOverrideStartedAt := now
      sentryModeOverrideName := fallbackModeFor modeName })
  else (modeName, board)

/-- What a tick does, once the mode is known: the node and the blackboard after it, and
    the message published, with its topic. -/
def publish (node : SetSentryMode) (board : ModeBoard) (publishModeName modeTopic : String) :
    SetSentryMode × ModeBoard × Option (String × ℤ) :=
  let targetMode := modeToValue publishModeName
  if board.currentSentryMode = targetMode ∧ board.currentSentryModeName = publishModeName then
    (node, board, none)
  else
    let node := if node.modePub = none ∨ modeTopic ≠ node.currentTopic then
      ⟨some modeTopic, modeTopic⟩ else node
    (node, { board with
      currentSentryMode := targetMode
      currentSentryModeName := publishModeName }, node.modePub.map (·, targetMode))

/-- `tick`, for the values of the ports `mode`, `mode_topic` and `enable_auto_fallback`. -/
def tick (node : SetSentryMode) (board : ModeBoard) (mode modeTopic : String)
    (enableAutoFallback : Bool) (now : ℚ) :
    Status × SetSentryMode × ModeBoard × Option (String × ℤ) :=
  let modeName := if mode = "" then "defense" else mode
  let modeTopic := if modeTopic = "" then "/sentry_mode_cmd" else modeTopic
  if modeToValue modeName < 0 then (.failure, node, board, none)
  else
    let selected := select board modeName enableAutoFallback now
    (.success, publish node selected.2 selected.1 modeTopic)

end SetSentryMode

end Sentry.Behavior
