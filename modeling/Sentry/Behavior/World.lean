import Mathlib.Logic.Function.Basic
import Sentry.Behavior.SentryMode
import Sentry.Behavior.Waypoints
import Sentry.Talker.Downlink

/-!
# The leaves of the tactical tree

What the nodes of the package `cod_behavior` do when the tactical tree ticks them: each
is a function of the world, which holds the blackboard, the state of every node, and
what has been published.

The world outside of the program (`Env`) answers the calls of the nodes: the steady
clock, the transform of the robot, the waypoint file, the conversion of a string to a
number. The calls are numbered, so the answers may change from one to the next in any
way.
-/

namespace Sentry.Behavior

open BehaviorTree (Status)
open Sentry.Talker (SerialReceiveData)

/-! ## The environment -/

/-- The answers to the calls of the nodes. -/
structure Env where
  /-- The readings of the steady clock, in nanoseconds. -/
  now : ℕ → ℤ
  /-- The position of `base_link` in `map`, unless the lookup fails. -/
  lookupTransform : ℕ → Option (ℚ × ℚ)
  /-- The content of a file, if it is opened. -/
  file : ℕ → String → Option (List Char)
  /-- `std::stod`, on texts of which it does not make an infinity or no number. -/
  stod : List Char → Option ℚ

/-! ## Nodes and blackboard -/

/-- The two branches of the tree; some nodes occur in both. -/
inductive Branch
  /-- Waiting at home while the health is low. -/
  | home
  /-- The patrol route. -/
  | patrol
  deriving DecidableEq

/-- The state of `WriteToBlackboard`: the fields of the last message. -/
structure WriteToBlackboard where
  hp : ℚ := 400
  enemyOutpostAlive : Bool := false
  ourOutpostAlive : Bool := false
  enemyBaseHp : ℤ := 0
  ourBaseHp : ℤ := 0
  sentryMode : ℤ := 0
  sentryBuff : Bool := false
  isReadInterface : Bool := false

/-- The state of `PubNav2Goal`: the time of its last publication, if there was one
    (`has_published_once_`, `last_publish_time_`). -/
structure PubNav2Goal where
  lastPublishTime : Option ℤ := none

/-- The state of `WaitUntilReached`. -/
structure WaitUntilReached where
  goal : PoseStamped := ⟨"", ⟨⟨0, 0, 0⟩, ⟨0, 0, 0, 1⟩⟩⟩
  tolerance : ℚ := 1 / 2

/-- The state of `WaitDuration`. -/
structure WaitDuration where
  duration : ℚ := 0
  startTime : ℤ := 0

/-- The entries of the blackboard that the tree uses. The last ones are set by the
    nodes of the patrol branch. -/
structure Blackboard where
  hp : ℚ := 400
  enemyOutpostAlive : Bool := false
  ourOutpostAlive : Bool := false
  enemyBaseHp : ℤ := 0
  ourBaseHp : ℤ := 0
  sentryMode : ℤ := 0
  sentryBuff : Bool := false
  homePosition : PoseStamped
  currentBehaviorLabel : String := ""
  mode : ModeBoard := {}
  zoneModeTopic : String
  frontPatrolCsv : String
  frontWaypoints : Option (List PoseStamped) := none
  frontWaitTimes : Option (List ℚ) := none
  frontTotalWaypoints : Option ℤ := none
  frontWpIdx : Option ℤ := none
  frontCurrentGoal : Option PoseStamped := none
  frontCurrentWaitSec : Option ℚ := none

/-- The blackboard, the states of the nodes, and what has been published on the topics
    of the goals, the modes and the labels, in order. -/
structure World where
  board : Blackboard
  writer : WriteToBlackboard := {}
  modeNodes : Branch → SetSentryMode := fun _ => {}
  pubs : Branch → PubNav2Goal := fun _ => {}
  waits : Branch → WaitUntilReached := fun _ => {}
  duration : WaitDuration := {}
  goalPoses : List PoseStamped := []
  modes : List (String × ℤ) := []
  labels : List String := []
  /-- The number of calls answered by the clock, the transforms and the files. -/
  clockReads : ℕ := 0
  lookups : ℕ := 0
  fileReads : ℕ := 0

/-- `WriteToBlackboard::callback`: only the fields of a 7v7 message are kept. -/
def WriteToBlackboard.callback (msg : SerialReceiveData) : WriteToBlackboard where
  hp := msg.hp.toNat
  enemyOutpostAlive := msg.enemyOutpostAlive
  ourOutpostAlive := msg.ourOutpostAlive
  enemyBaseHp := msg.enemyBaseHp.toNat
  ourBaseHp := msg.ourBaseHp.toNat
  sentryMode := msg.sentryMode.toNat
  sentryBuff := msg.sentryBuff
  isReadInterface := true

/-! ## Ports -/

/-- `duration_cast<milliseconds>` of nanoseconds. -/
def toMilliseconds (ns : ℤ) : ℤ := ns.tdiv 1000000

/-- Seconds of nanoseconds, as a number. -/
def toSeconds (ns : ℤ) : ℚ := ns / 1000000000

/-- `static_cast<int>` of a size. -/
def toInt32 (n : ℕ) : ℤ := (BitVec.ofNat 32 n).toInt

/-- The `threshold` of `HpCondition` in the tree. -/
def hpThreshold : ℚ := 300

/-- The `min_pub_interval_ms` of both nodes `PubNav2Goal`. -/
def minPubIntervalMs : ℤ := 500

/-- The label announced in a branch. -/
def label : Branch → String
  | .home => "低血回家待命"
  | .patrol => "执行test路线"

namespace World

/-- The `goal_pose` of the nodes of a branch. -/
def goalPose (w : World) : Branch → Option PoseStamped
  | .home => some w.board.homePosition
  | .patrol => w.board.frontCurrentGoal

/-! ## Conditions and synchronous actions -/

/-- `WriteToBlackboard::tick` -/
def writeToBlackboard (w : World) : Status × World :=
  if !w.writer.isReadInterface then (.failure, w)
  else (.success, { w with board := { w.board with
    hp := w.writer.hp
    enemyOutpostAlive := w.writer.enemyOutpostAlive
    ourOutpostAlive := w.writer.ourOutpostAlive
    enemyBaseHp := w.writer.enemyBaseHp
    ourBaseHp := w.writer.ourBaseHp
    sentryMode := w.writer.sentryMode
    sentryBuff := w.writer.sentryBuff } })

/-- `HpCondition::tick` -/
def hpCondition (w : World) : Status × World :=
  if w.board.hp < hpThreshold then (.success, w) else (.failure, w)

/-- `SetSentryMode::tick`, for the mode `move` and without fallback, as in both branches. -/
def setSentryMode (env : Env) (branch : Branch) (w : World) : Status × World :=
  let (status, node, mode, published) := (w.modeNodes branch).tick w.board.mode "move"
    w.board.zoneModeTopic false (toSeconds (env.now w.clockReads))
  (status, { w with
    board := { w.board with mode := mode }
    modeNodes := Function.update w.modeNodes branch node
    modes := w.modes ++ published.toList
    clockReads := w.clockReads + 1 })

/-- `AnnounceBehavior::tick` -/
def announceBehavior (branch : Branch) (w : World) : Status × World :=
  (.success, { w with
    board := { w.board with currentBehaviorLabel := label branch }
    labels := w.labels ++ [label branch] })

/-- The throttle of `RosTopicPubNode::tick`: the node has published less than
    `min_pub_interval_ms` before the next reading of the clock. -/
def throttled (env : Env) (branch : Branch) (w : World) : Bool :=
  match (w.pubs branch).lastPublishTime with
  | none => false
  | some time => toMilliseconds (env.now w.clockReads - time) < minPubIntervalMs

/-- `PubNav2Goal::setMessage` -/
def setMessage (w : World) (branch : Branch) : Option PoseStamped :=
  (w.goalPose branch).map fun goal =>
    if goal.frameId = "" then { goal with frameId := "map" } else goal

/-- `RosTopicPubNode::tick`, of a node `PubNav2Goal`: the clock is read for the throttle,
    unless nothing was published before, and once more after a publication. -/
def pubNav2Goal (env : Env) (branch : Branch) (w : World) : Status × World :=
  let reads := if (w.pubs branch).lastPublishTime.isSome then w.clockReads + 1 else w.clockReads
  if w.throttled env branch then (.success, { w with clockReads := reads })
  else
    match w.setMessage branch with
    | none => (.failure, { w with clockReads := reads })
    | some msg => (.success, { w with
        goalPoses := w.goalPoses ++ [msg]
        pubs := Function.update w.pubs branch ⟨some (env.now reads)⟩
        clockReads := reads + 1 })

/-- `LoadWaypoints::tick` -/
def loadWaypoints (env : Env) (w : World) : Status × World :=
  let file := env.file w.fileReads w.board.frontPatrolCsv
  let w := { w with fileReads := w.fileReads + 1 }
  match loadWaypointsFromCSV env.stod file "map" true with
  | none => (.failure, w)
  | some (waypoints, waitTimes) => (.success, { w with board := { w.board with
      frontWaypoints := some waypoints
      frontWaitTimes := some waitTimes
      frontTotalWaypoints := some (toInt32 waypoints.length)
      frontWpIdx := some 0 } })

/-- `GetCurrentWaypoint::tick` -/
def getCurrentWaypoint (w : World) : Status × World :=
  match w.board.frontWaypoints, w.board.frontWpIdx with
  | some waypoints, some idx =>
    if idx < 0 ∨ toInt32 waypoints.length ≤ idx then (.failure, w)
    else
      match waypoints[idx.toNat]? with
      | none => (.failure, w)
      | some goal =>
        let waitSec := match w.board.frontWaitTimes with
          | none => 0
          | some waitTimes =>
            if idx < toInt32 waitTimes.length then waitTimes.getD idx.toNat 0 else 0
        (.success, { w with board := { w.board with
          frontCurrentGoal := some goal
          frontCurrentWaitSec := some waitSec } })
  | _, _ => (.failure, w)

/-- `NextWaypoint::tick` -/
def nextWaypoint (w : World) : Status × World :=
  match w.board.frontWpIdx, w.board.frontTotalWaypoints with
  | some idx, some total =>
    (.success, { w with board := { w.board with frontWpIdx := some ((idx + 1).tmod total) } })
  | _, _ => (.failure, w)

/-! ## Stateful actions -/

/-- `WaitUntilReached::onStart` -/
def startWait (branch : Branch) (w : World) : Status × World :=
  match w.goalPose branch with
  | none => (.failure, w)
  | some goal => (.running, { w with waits := Function.update w.waits branch ⟨goal, 1 / 2⟩ })

/-- `WaitUntilReached::onRunning`: the distance is below the tolerance, which is positive,
    when its square is below the square of the tolerance. -/
def checkReached (env : Env) (branch : Branch) (w : World) : Status × World :=
  let reached := match env.lookupTransform w.lookups with
    | none => false
    | some (x, y) =>
      let dx := x - (w.waits branch).goal.pose.position.x
      let dy := y - (w.waits branch).goal.pose.position.y
      dx * dx + dy * dy < (w.waits branch).tolerance * (w.waits branch).tolerance
  (if reached then .success else .running, { w with lookups := w.lookups + 1 })

/-- `WaitDuration::onStart` -/
def startDuration (env : Env) (w : World) : Status × World :=
  let duration := w.board.frontCurrentWaitSec.getD 0
  if duration ≤ 0 then (.success, { w with duration := { w.duration with duration := duration } })
  else (.running, { w with
    duration := ⟨duration, env.now w.clockReads⟩
    clockReads := w.clockReads + 1 })

/-- `WaitDuration::onRunning` -/
def checkDuration (env : Env) (w : World) : Status × World :=
  let elapsed := toSeconds (env.now w.clockReads - w.duration.startTime)
  (if w.duration.duration ≤ elapsed then .success else .running,
    { w with clockReads := w.clockReads + 1 })

/-! ## Statuses -/

variable {env : Env} {branch : Branch} {w : World} {goal : PoseStamped}

theorem writeToBlackboard_status (w : World) :
    w.writeToBlackboard.1 = .success ∨ w.writeToBlackboard.1 = .failure := by
  rw [writeToBlackboard]
  split <;> simp

theorem hpCondition_status (w : World) :
    w.hpCondition.1 = .success ∨ w.hpCondition.1 = .failure := by
  rw [hpCondition]
  split <;> simp

@[simp] theorem setSentryMode_status (env : Env) (branch : Branch) (w : World) :
    (w.setSentryMode env branch).1 = .success := by
  simp [setSentryMode, SetSentryMode.tick, SetSentryMode.modeToValue]

@[simp] theorem announceBehavior_status (branch : Branch) (w : World) :
    (w.announceBehavior branch).1 = .success := rfl

theorem loadWaypoints_status (env : Env) (w : World) :
    (w.loadWaypoints env).1 = .success ∨ (w.loadWaypoints env).1 = .failure := by
  simp only [loadWaypoints]
  split <;> simp

theorem getCurrentWaypoint_status (w : World) :
    w.getCurrentWaypoint.1 = .success ∨ w.getCurrentWaypoint.1 = .failure := by
  rw [getCurrentWaypoint]
  split
  · split
    · simp
    · split <;> simp
  · simp

theorem nextWaypoint_status (w : World) :
    w.nextWaypoint.1 = .success ∨ w.nextWaypoint.1 = .failure := by
  rw [nextWaypoint]
  split <;> simp

theorem checkReached_status (env : Env) (branch : Branch) (w : World) :
    (w.checkReached env branch).1 = .success ∨ (w.checkReached env branch).1 = .running := by
  simp only [checkReached]
  split <;> split <;> simp

theorem startDuration_status (env : Env) (w : World) :
    (w.startDuration env).1 = .success ∨ (w.startDuration env).1 = .running := by
  simp only [startDuration]
  split <;> simp

theorem checkDuration_status (env : Env) (w : World) :
    (w.checkDuration env).1 = .success ∨ (w.checkDuration env).1 = .running := by
  simp only [checkDuration]
  split <;> simp

/-! ## Goals -/

/-- A waypoint that was taken is the goal of the patrol. -/
theorem getCurrentWaypoint_goalPose (h : w.getCurrentWaypoint.1 = .success) :
    ∃ goal, w.getCurrentWaypoint.2.goalPose .patrol = some goal := by
  simp only [getCurrentWaypoint] at h ⊢
  split
  · split
    · simp_all
    · split
      · simp_all
      · exact ⟨_, rfl⟩
  · simp_all

/-- A publication changes no goal. -/
@[simp] theorem pubNav2Goal_goalPose (env : Env) (branch branch' : Branch) (w : World) :
    (w.pubNav2Goal env branch).2.goalPose branch' = w.goalPose branch' := by
  simp only [pubNav2Goal]
  split
  · cases branch' <;> rfl
  · split <;> cases branch' <;> rfl

theorem pubNav2Goal_status (env : Env) (h : w.goalPose branch = some goal) :
    (w.pubNav2Goal env branch).1 = .success := by
  simp only [pubNav2Goal, setMessage, h]
  split <;> rfl

theorem startWait_status (h : w.goalPose branch = some goal) :
    (w.startWait branch).1 = .running := by simp only [startWait, h]

end World

end Sentry.Behavior
