import Sentry.Behavior.ActionNode

/-!
# Halting an action

A running node that is halted cancels its goal, then its `onHalt` runs. The handlers of the
three `onHalt` are for the exceptions of the cancellation, but they stand around the `onHalt`
of the base class, which does nothing: the cancellation comes before, in `halt`, and what it
throws leaves `halt` (`not_halts_leftOver`).

So a node halts just when the cancellation returns (`halts_iff`): when there is no goal to
cancel, or the calls for the goal of its handle do not throw (`SafeToHalt`).
-/

namespace Sentry.Behavior

open BehaviorTree (Status)
open Program (Returns)

namespace RosActionNode

variable {c : ActionClass} {client : Client} {n : RosActionNode}

/-- A node halts: `halt` returns, and the text of its `onHalt` is what it logged last. -/
def Halts (c : ActionClass) (client : Client) (n : RosActionNode) : Prop :=
  Returns (halt c client) n fun _ n' => n'.logs.head? = some c.haltText

/-- The client does not throw when it is asked for the result and to cancel. -/
def Silent (client : Client) : Prop :=
  (∀ e, client.getResult ≠ .throws e) ∧ ∀ e, client.cancelGoal ≠ .throws e

/-- Cancelling is safe: there is a goal handle, and the client does not throw; or there is
    none, and no response is awaited; or it is, no result comes while it is awaited, and it
    does not come, or the goal is accepted and the client does not throw. -/
def SafeToHalt (client : Client) (n : RosActionNode) : Prop :=
  match n.goalHandle, n.futureGoalHandle with
  | some _, _ => Silent client
  | none, none => True
  | none, some _ => (∀ result, .result result ∉ client.waiting) ∧
      (client.goalResponse = none ∨ client.goalResponse = some true ∧ Silent client)

/-! ## The parts of a halt -/

@[simp] theorem returns_log {Q : PUnit → RosActionNode → Prop} (level : Level) (text : String) :
    Returns (log level text) n Q ↔ Q ⟨⟩ { n with logs := (level, text) :: n.logs } :=
  Program.returns_modify _

/-- The handlers of `onHalt` have nothing to do: the base class does not throw. -/
theorem returns_onHaltLogging {Q : PUnit → RosActionNode → Prop} (level : Level) (text : String) :
    Returns (onHaltLogging level text) n Q ↔
      Q ⟨⟩ { n with logs := (level, text) :: n.logs } := by
  rw [onHaltLogging, Program.returns_bind, returns_log, Program.returns_tryCatch,
    RosActionNode.onHalt, Program.returns_pure]
  refine or_iff_left ?_
  rintro ⟨e, n', he, -⟩
  cases he

theorem returns_onHalt {Q : PUnit → RosActionNode → Prop} (c : ActionClass) :
    Returns c.onHalt n Q ↔ Q ⟨⟩ { n with logs := c.haltText :: n.logs } := by
  cases c <;> exact returns_onHaltLogging _ _

/-- A node halts if its cancellation returns. -/
theorem halts_iff_cancelGoal (hrunning : n.status = .running) :
    Halts c client n ↔ Returns (cancelGoal c client) n fun _ _ => True := by
  simp only [Halts, halt, Program.returns_bind, Program.returns_get, if_pos hrunning,
    returns_onHalt, List.head?_cons]

/-- What the callbacks leave, if they return. -/
def afterCallbacks (n : RosActionNode) : List Callback → RosActionNode
  | [] => n
  | .feedback :: callbacks => { n with onFeedbackStateChange := .running }.afterCallbacks callbacks
  | .result result :: callbacks =>
    (if n.goalHandle = some result.goalId then { n with result := result }
      else n).afterCallbacks callbacks

/-- The callbacks return if there is a goal handle, or no result among them. -/
theorem returns_runCallbacks {Q : PUnit → RosActionNode → Prop} {callbacks : List Callback} :
    Returns (runCallbacks c callbacks) n Q ↔
      (n.goalHandle = none → ∀ result, .result result ∉ callbacks) ∧
        Q ⟨⟩ (n.afterCallbacks callbacks) := by
  induction callbacks generalizing n with
  | nil => simp [runCallbacks, afterCallbacks]
  | cons callback callbacks ih =>
    cases callback with
    | feedback =>
      simp [runCallbacks, runCallback, ActionClass.onFeedback, ih, afterCallbacks]
    | result r =>
      cases hgoal : n.goalHandle with
      | none =>
        -- the callback of the result dereferences the handle
        refine iff_of_false ?_ fun h => h.1 rfl r List.mem_cons_self
        simp [runCallbacks, runCallback, hgoal]
      | some goal =>
        by_cases hsame : goal = r.goalId
        · simp [runCallbacks, runCallback, hgoal, hsame, ih, afterCallbacks]
        · simp [runCallbacks, runCallback, hgoal, hsame, ih, afterCallbacks]

/-- A call returns if there is a handle to call with, and the client does not throw. -/
theorem returns_call {Q : PUnit → RosActionNode → Prop} (request : ℕ → Request)
    (goalHandle : Option ℕ) (reply : Reply) :
    Returns (call request goalHandle reply) n Q ↔
      ∃ goal, goalHandle = some goal ∧ (∀ e, reply ≠ .throws e) ∧
        Q ⟨⟩ (n.asked (request goal)) := by
  cases goalHandle with
  | none => simp [call]
  | some goal => cases reply <;> simp [call, throwExn]

theorem returns_requestCancel :
    Returns (requestCancel c client) n (fun _ _ => True) ↔
      n.goalHandle ≠ none ∧ Silent client := by
  simp only [requestCancel, Program.returns_bind, Program.returns_get, returns_call,
    returns_runCallbacks, Program.returns_ite, returns_log, Program.returns_pure, ite_self,
    and_true, Silent]
  constructor
  · rintro ⟨goal, hgoal, hresult, _, -, hcancel, -⟩
    exact ⟨hgoal ▸ Option.some_ne_none goal, hresult, hcancel⟩
  · rintro ⟨hne, hresult, hcancel⟩
    obtain ⟨goal, hgoal⟩ := Option.ne_none_iff_exists'.1 hne
    exact ⟨goal, hgoal, hresult, goal, hgoal, hcancel, fun hnone => absurd hnone hne⟩

/-- The cancellation returns just when it is safe. -/
theorem returns_cancelGoal :
    Returns (cancelGoal c client) n (fun _ _ => True) ↔ SafeToHalt client n := by
  rw [cancelGoal, Program.returns_bind, Program.returns_get, SafeToHalt]
  cases hgoal : n.goalHandle with
  | some goal =>
    simp only [returns_requestCancel, hgoal, ne_eq, reduceCtorEq, not_false_eq_true, true_and]
  | none =>
    cases hfuture : n.futureGoalHandle with
    | none => simp only [returns_log]
    | some goal =>
      simp only [Program.returns_bind, returns_runCallbacks, hgoal, true_imp_iff]
      refine and_congr_right fun _ => ?_
      rcases client.goalResponse with _ | accepted
      · simp
      · -- the handle is null when the goal is rejected
        cases accepted <;> simp [takeGoalHandle, returns_requestCancel]

end RosActionNode

open RosActionNode

/-- A running node halts just when it is safe to halt it. -/
theorem halts_iff (c : ActionClass) (client : Client) {n : RosActionNode}
    (hrunning : n.status = .running) : Halts c client n ↔ SafeToHalt client n :=
  (halts_iff_cancelGoal hrunning).trans returns_cancelGoal

/-- The goal of the node is accepted, and its cancellation times out. -/
theorem halts_iff_timeout : Halts .sendNav2Goal { cancelGoal := .timeout }
    { RosActionNode.init "SendNav2Goal" "/navigate_to_pose" false with
      status := .running
      goalHandle := some 0
      goalReceived := true
      goalsSent := 1 } :=
  (halts_iff .sendNav2Goal { cancelGoal := .timeout } rfl).mpr ⟨nofun, nofun⟩

/-! ## A handle of an earlier goal -/

/-- The client throws that it does not know the handle. -/
def forgetful : Client where
  getResult := .throws (.unknownGoalHandleError "Goal handle is not known to this client.")

/-- Two goals of one node: the first one is accepted, and succeeds; the response to the second
    one is awaited. -/
def twoGoals (c : ActionClass) : NodeM PUnit := do
  executeTick c {}
  executeTick c { client := { goalResponse := some true } }
  executeTick c { callbacks := [.result { goalId := 0, code := .succeeded }] }
  resetStatus
  executeTick c {}

/-- The second goal is awaited with the handle of the first one. -/
theorem returns_twoGoals (c : ActionClass) (name actionName : String) :
    Returns (twoGoals c) (RosActionNode.init name actionName false) fun _ n =>
      n.status = .running ∧ n.goalHandle = some 0 ∧ n.futureGoalHandle = some 1 := by
  cases c <;> exact ⟨_, _, rfl, rfl, rfl, rfl⟩

/-- The exception leaves `halt`. -/
theorem not_halts_leftOver : ¬∀ (c : ActionClass) (client : Client) (n : RosActionNode),
    n.status = .running → Halts c client n := by
  intro hall
  obtain ⟨_, n, -, hrunning, hgoal, -⟩ :=
    returns_twoGoals .followWaypointsAction "FollowWaypointsAction" "/follow_waypoints"
  have hhalts : Halts .followWaypointsAction forgetful n := hall _ _ _ hrunning
  have hsafe : SafeToHalt forgetful n :=
    returns_cancelGoal.mp ((halts_iff_cancelGoal hrunning).mp hhalts)
  rw [SafeToHalt, hgoal] at hsafe
  exact hsafe.1 _ rfl

end Sentry.Behavior
