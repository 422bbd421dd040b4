import Mathlib.Data.Rat.Defs
import Sentry.BehaviorTree
import Sentry.Program

/-!
# Action nodes

`RosActionNode`, and the three nodes made of it for navigation: a node sends a goal to an
action server, waits for its goal handle, then for the result; when it is halted, it cancels
the goal. Its functions are programs that may throw; what they override is selected by the
class of the node (`ActionClass`).

The client of the action is not part of the repository: what it answers to the calls of one
function is an input of it (`Client`, `TickInput`), goal handles are numbered in the order in
which their goals are sent, and the client dereferences the handle that it is called with. What
it is asked about a goal that was sent is recorded (`RosActionNode.requests`).
`setGoal` is an input as well. The program makes every node with its client, so there always
is one. What is logged at the level DEBUG is left out, and so is the port `current_waypoint`.
-/

namespace Sentry.Behavior

open BehaviorTree (Status)

/-! ## Exceptions and logs -/

/-- An exception, with the text of its `what()`. -/
inductive Exn
  /-- `rclcpp_action::exceptions::UnknownGoalHandleError` -/
  | unknownGoalHandleError (what : String)
  /-- Another `std::exception`. -/
  | other (what : String)
  deriving DecidableEq

/-- How a call ends that does not return: with an exception, or by dereferencing a null
    pointer, which no `catch` block is for. -/
inductive Fault
  | thrown (e : Exn)
  | nullPointer
  deriving DecidableEq

inductive Level
  | info
  | warn
  | error
  deriving DecidableEq

/-! ## Nodes -/

/-- The classes derived from `RosActionNode`. -/
inductive ActionClass
  | sendNav2Goal
  | followWaypointsAction
  | navigateThroughPosesAction
  deriving DecidableEq

/-- `ActionNodeErrorCode` -/
inductive ActionNodeErrorCode
  | serverUnreachable
  | sendGoalTimeout
  | goalRejectedByServer
  | actionAborted
  | actionCancelled
  | invalidGoal

namespace ActionNodeErrorCode

def toNat : ActionNodeErrorCode → ℕ
  | serverUnreachable => 0
  | sendGoalTimeout => 1
  | goalRejectedByServer => 2
  | actionAborted => 3
  | actionCancelled => 4
  | invalidGoal => 5

/-- `toStr` -/
def toStr : ActionNodeErrorCode → String
  | serverUnreachable => "SERVER_UNREACHABLE"
  | sendGoalTimeout => "SEND_GOAL_TIMEOUT"
  | goalRejectedByServer => "GOAL_REJECTED_BY_SERVER"
  | actionAborted => "ACTION_ABORTED"
  | actionCancelled => "ACTION_CANCELLED"
  | invalidGoal => "INVALID_GOAL"

end ActionNodeErrorCode

/-- `rclcpp_action::ResultCode` -/
inductive ResultCode
  | unknown
  | succeeded
  | canceled
  | aborted
  deriving DecidableEq

def ResultCode.toNat : ResultCode → ℕ
  | unknown => 0
  | succeeded => 4
  | canceled => 5
  | aborted => 6

/-- `WrappedResult`, with the missed waypoints of the result of `FollowWaypoints`, if there is
    a result. -/
structure WrappedResult where
  goalId : ℕ := 0
  code : ResultCode := .unknown
  missedWaypoints : List ℕ := []

/-- A call to the client with the handle of a goal. -/
inductive Request
  | asyncGetResult (goal : ℕ)
  | asyncCancelGoal (goal : ℕ)
  deriving DecidableEq

/-- The state of a `RosActionNode`, the number of goals that it has sent, and, the newest first,
    what it has asked the client about them, and what it has logged. -/
structure RosActionNode where
  name : String
  status : Status := .idle
  actionName : String
  actionNameShouldBeChecked : Bool := false
  /-- The goal whose response is awaited, if the future is valid. -/
  futureGoalHandle : Option ℕ := none
  /-- The goal of the handle, if it is not null. -/
  goalHandle : Option ℕ := none
  timeGoalSent : ℚ := 0
  onFeedbackStateChange : Status := .running
  goalReceived : Bool := false
  result : WrappedResult := {}
  goalsSent : ℕ := 0
  requests : List Request := []
  logs : List (Level × String) := []

/-- A function of a node: it may throw, and leaves the node as it is where it does. -/
abbrev NodeM := EStateM Fault RosActionNode

/-- How a call to the client ends, once what it returned has been waited for. -/
inductive Reply
  | success
  | timeout
  | throws (e : Exn)
  deriving DecidableEq

/-- A callback that the client runs while the node spins its executor. -/
inductive Callback
  | feedback
  | result (result : WrappedResult)

/-- What the client does in a function of the node. -/
structure Client where
  /-- The response to the goal sent last, if it comes while it is waited for: whether the goal
      is accepted. -/
  goalResponse : Option Bool := none
  /-- `async_get_result` -/
  getResult : Reply := .success
  /-- `async_cancel_goal` -/
  cancelGoal : Reply := .success
  /-- The callbacks while `cancelGoal` waits for the response. -/
  waiting : List Callback := []
  /-- The callbacks while `cancelGoal` waits for the result and the cancellation. -/
  cancelling : List Callback := []

/-- What a tick finds. -/
structure TickInput where
  /-- `rclcpp::ok()` -/
  ok : Bool := true
  /-- The port `action_name`. -/
  portActionName : String := ""
  /-- The node of ROS is there. -/
  nodeAlive : Bool := true
  /-- The server is found when a client is made. -/
  serverFound : Bool := true
  /-- What `setGoal` returns or throws. -/
  setGoal : Except Exn Bool := .ok true
  actionServerIsReady : Bool := true
  /-- The callbacks of the spins of a tick. -/
  callbacks : List Callback := []
  client : Client := {}
  now : ℚ := 0

/-- `server_timeout`, in seconds. -/
def serverTimeout : ℚ := 5

def log (level : Level) (text : String) : NodeM PUnit :=
  modify fun n => { n with logs := (level, text) :: n.logs }

def throwExn {α : Type} (e : Exn) : NodeM α := throw (.thrown e)

namespace RosActionNode

/-- A node when it is made. -/
def init (name actionName : String) (actionNameShouldBeChecked : Bool) : RosActionNode where
  name := name
  actionName := actionName
  actionNameShouldBeChecked := actionNameShouldBeChecked

/-- `RosActionNode::onHalt`: nothing. -/
def onHalt : NodeM PUnit := pure ⟨⟩

end RosActionNode

/-! ## What is overridden -/

/-- The text that an `onHalt` of the three nodes logs, then the `onHalt` of the base class,
    with its exceptions caught. -/
def onHaltLogging (level : Level) (text : String) : NodeM PUnit := do
  log level text
  tryCatch RosActionNode.onHalt fun
    | .thrown (.unknownGoalHandleError what) =>
      log .warn ("Ignored UnknownGoalHandleError during halt: " ++ what)
    | .thrown (.other what) => log .error ("Exception caught during halt: " ++ what)
    | .nullPointer => throw .nullPointer

/-- `onFailure` of the three nodes: the text that it logs. -/
def onFailureLogging (text : String) : NodeM Status := do
  log .error text
  return .failure

namespace SendNav2Goal

def haltText : Level × String := (.info, "SendGoalAction has been halted.")

def onHalt : NodeM PUnit := onHaltLogging haltText.1 haltText.2

def onResultReceived (wr : WrappedResult) : NodeM Status :=
  match wr.code with
  | .succeeded => do
    log .info "Success!!!"
    return .success
  | .aborted => do
    log .info "Goal was aborted"
    return .failure
  | .canceled => do
    log .info "Goal was canceled"
    return .failure
  | .unknown => do
    log .info "Unknown result code"
    return .failure

def onFailure (error : ActionNodeErrorCode) : NodeM Status :=
  onFailureLogging ("SendGoalAction failed with error code: " ++ toString error.toNat)

end SendNav2Goal

namespace FollowWaypointsAction

def haltText : Level × String := (.warn, "FollowWaypointsAction: 多点导航已被中断")

def onHalt : NodeM PUnit := onHaltLogging haltText.1 haltText.2

/-- The code of the result is not looked at. -/
def onResultReceived (wr : WrappedResult) : NodeM Status := do
  log .info "FollowWaypointsAction: 所有航点导航完成!"
  if wr.missedWaypoints ≠ [] then
    log .warn ("  有 " ++ toString wr.missedWaypoints.length ++ " 个航点未到达:")
    return .failure
  else
    log .info "  所有航点均已成功到达"
    return .success

def onFailure (error : ActionNodeErrorCode) : NodeM Status :=
  onFailureLogging ("FollowWaypointsAction 失败，错误码: " ++ error.toStr)

end FollowWaypointsAction

namespace NavigateThroughPosesAction

def haltText : Level × String := (.warn, "NavigateThroughPosesAction: 穿越导航已被中断")

def onHalt : NodeM PUnit := onHaltLogging haltText.1 haltText.2

def onResultReceived (wr : WrappedResult) : NodeM Status := do
  log .info "NavigateThroughPosesAction: 穿越导航完成!"
  if wr.code ≠ .succeeded then
    log .warn ("  穿越导航未成功，结果码: " ++ toString wr.code.toNat)
    return .failure
  else
    log .info "  所有航点均已成功穿越"
    return .success

def onFailure (error : ActionNodeErrorCode) : NodeM Status :=
  onFailureLogging ("NavigateThroughPosesAction 失败，错误码: " ++ error.toStr)

end NavigateThroughPosesAction

namespace ActionClass

/-- The text that `onHalt` logs. -/
def haltText : ActionClass → Level × String
  | sendNav2Goal => SendNav2Goal.haltText
  | followWaypointsAction => FollowWaypointsAction.haltText
  | navigateThroughPosesAction => NavigateThroughPosesAction.haltText

def onHalt : ActionClass → NodeM PUnit
  | sendNav2Goal => SendNav2Goal.onHalt
  | followWaypointsAction => FollowWaypointsAction.onHalt
  | navigateThroughPosesAction => NavigateThroughPosesAction.onHalt

/-- `onFeedback` of the three nodes. -/
def onFeedback : ActionClass → Status := fun _ => .running

def onResultReceived : ActionClass → WrappedResult → NodeM Status
  | sendNav2Goal => SendNav2Goal.onResultReceived
  | followWaypointsAction => FollowWaypointsAction.onResultReceived
  | navigateThroughPosesAction => NavigateThroughPosesAction.onResultReceived

def onFailure : ActionClass → ActionNodeErrorCode → NodeM Status
  | sendNav2Goal => SendNav2Goal.onFailure
  | followWaypointsAction => FollowWaypointsAction.onFailure
  | navigateThroughPosesAction => NavigateThroughPosesAction.onFailure

end ActionClass

/-! ## Callbacks and calls -/

namespace RosActionNode

/-- The callbacks of feedback and of results. -/
def runCallback (c : ActionClass) : Callback → NodeM PUnit
  | .feedback => do
    modify fun n => { n with onFeedbackStateChange := c.onFeedback }
    if c.onFeedback = .idle then throwExn (.other "onFeedback must not return IDLE")
  | .result result => do
    let n ← get
    match n.goalHandle with
    | none => throw .nullPointer
    | some goal => if goal = result.goalId then modify fun n => { n with result := result }

def runCallbacks (c : ActionClass) : List Callback → NodeM PUnit
  | [] => pure ⟨⟩
  | callback :: callbacks => do
    runCallback c callback
    runCallbacks c callbacks

/-- The response to a goal comes: its callback, and its future, which gives the handle. -/
def takeGoalHandle (goal : ℕ) (accepted : Bool) : NodeM PUnit := do
  if !accepted then log .error "Goal was rejected by server"
  modify fun n => { n with
    goalHandle := if accepted then some goal else none
    futureGoalHandle := none }

/-- The node once it has asked the client something. -/
def asked (n : RosActionNode) (request : Request) : RosActionNode :=
  { n with requests := request :: n.requests }

/-- A call to the client with a goal handle; it has been made even if it throws. -/
def call (request : ℕ → Request) (goalHandle : Option ℕ) (reply : Reply) : NodeM PUnit :=
  match goalHandle with
  | none => throw .nullPointer
  | some goal => do
    modify fun n => n.asked (request goal)
    match reply with
    | .throws e => throwExn e
    | _ => pure ⟨⟩

/-! ## Halting -/

/-- The end of `cancelGoal`: the client is asked for the result, then to cancel the goal. -/
def requestCancel (c : ActionClass) (client : Client) : NodeM PUnit := do
  let n ← get
  call .asyncGetResult n.goalHandle client.getResult
  call .asyncCancelGoal n.goalHandle client.cancelGoal
  runCallbacks c client.cancelling
  if client.cancelGoal = .timeout then
    log .error ("Failed to cancel action server for [" ++ n.actionName ++ "]")
  if client.getResult = .timeout then
    log .error ("Failed to get result call failed :( for [" ++ n.actionName ++ "]")

/-- `cancelGoal` -/
def cancelGoal (c : ActionClass) (client : Client) : NodeM PUnit := do
  let n ← get
  match n.goalHandle, n.futureGoalHandle with
  | some _, _ => requestCancel c client
  | none, none => log .warn "cancelGoal called on an empty goal_handle"
  | none, some goal =>
    runCallbacks c client.waiting
    match client.goalResponse with
    | none => pure ⟨⟩
    | some accepted =>
      takeGoalHandle goal accepted
      requestCancel c client

/-- `halt` -/
def halt (c : ActionClass) (client : Client) : NodeM PUnit := do
  let n ← get
  if n.status = .running then
    cancelGoal c client
    c.onHalt

/-! ## Ticks -/

/-- `createClient` -/
def createClient (input : TickInput) : NodeM PUnit := do
  if input.portActionName = "" then throwExn (.other "action_name is empty")
  else if !input.nodeAlive then
    throwExn (.other ("The ROS node went out of scope. RosNodeParams doesn't take the " ++
      "ownership of the node."))
  else
    modify fun n => { n with actionName := input.portActionName }
    if !input.serverFound then
      let n ← get
      log .error (n.name ++ ": Action server with name '" ++ n.actionName ++ "' is not reachable.")

/-- `CheckStatus` -/
def checkStatus (status : Status) : NodeM Status :=
  if status = .success ∨ status = .failure then pure status
  else throwExn (.other "RosActionNode: the callback must return either SUCCESS nor FAILURE")

/-- The first step of an action: the goal is sent. -/
def tickIdle (c : ActionClass) (input : TickInput) : NodeM Status := do
  modify fun n => { n with
    status := .running
    goalReceived := false
    futureGoalHandle := none
    onFeedbackStateChange := .running
    result := {} }
  match input.setGoal with
  | .error e => throwExn e
  | .ok false =>
    let status ← c.onFailure .invalidGoal
    checkStatus status
  | .ok true =>
    if !input.actionServerIsReady then c.onFailure .serverUnreachable
    else
      modify fun n => { n with
        futureGoalHandle := some n.goalsSent
        goalsSent := n.goalsSent + 1
        timeGoalSent := input.now }
      return .running

/-- The end of the tick of a running node that has its goal handle. -/
def tickReceived (c : ActionClass) (input : TickInput) : NodeM Status := do
  let n ← get
  if n.onFeedbackStateChange ≠ .running then
    cancelGoal c input.client
    return n.onFeedbackStateChange
  else
    match n.result.code with
    | .unknown => return .running
    | .aborted =>
      let status ← c.onFailure .actionAborted
      checkStatus status
    | .canceled =>
      let status ← c.onFailure .actionCancelled
      checkStatus status
    | .succeeded =>
      let status ← c.onResultReceived n.result
      checkStatus status

/-- The tick of a running node. -/
def tickRunning (c : ActionClass) (input : TickInput) : NodeM Status := do
  runCallbacks c input.callbacks
  let n ← get
  if n.goalReceived then tickReceived c input
  else
    match n.futureGoalHandle with
    | none => throwExn (.other "std::future_error: No associated state")
    | some goal =>
      match input.client.goalResponse with
      | none =>
        if serverTimeout < input.now - n.timeGoalSent then
          let status ← c.onFailure .sendGoalTimeout
          checkStatus status
        else return .running
      | some accepted =>
        takeGoalHandle goal accepted
        modify fun n => { n with goalReceived := true }
        if accepted then tickReceived c input
        else
          let status ← c.onFailure .goalRejectedByServer
          checkStatus status

/-- `tick` -/
def tick (c : ActionClass) (input : TickInput) : NodeM Status := do
  if !input.ok then
    halt c input.client
    return .failure
  else
    let n ← get
    if n.status = .idle ∧ n.actionNameShouldBeChecked ∧ n.actionName ≠ input.portActionName then
      createClient input
    match n.status with
    | .idle => tickIdle c input
    | .running => tickRunning c input
    | _ => return .running

/-- `executeTick`: the status is the one that the tick returns. -/
def executeTick (c : ActionClass) (input : TickInput) : NodeM PUnit := do
  let status ← tick c input
  modify fun n => { n with status := status }

/-- `resetStatus`, after the node has completed. -/
def resetStatus : NodeM PUnit := modify fun n => { n with status := .idle }

end RosActionNode

end Sentry.Behavior
