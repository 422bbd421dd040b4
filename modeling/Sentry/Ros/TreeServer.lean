import Mathlib.Data.List.Basic
import Sentry.Run

/-!
# The execution server

`TreeExecutionServer` is an action server: a goal names a tree, a thread of its own ticks the
tree until it completes, and the result of the goal says how. The callbacks of the server are in
the callback group that a node has by default, which is mutually exclusive: whatever the
executor, requests come one at a time, in between the moves of the thread, each of them up to
the next call of a function that may throw or be overridden (`Execution.step`). A goal that is
accepted waits in `handle_accepted` for the thread of the one before it, and with it all the
requests after it.

So the trees are executed one after the other, in the order of their goals, each of which has
its result before the next tree is executed, and keeps it (`results_in_order`).
-/

namespace Sentry.Ros

open Transition (Run)

/-! ## Results -/

/-- `BT::NodeStatus` -/
inductive NodeStatus
  | idle
  | running
  | success
  | failure
  | skipped
  deriving DecidableEq

/-- `BT::toStr` -/
def NodeStatus.toStr : NodeStatus → String
  | .idle => "IDLE"
  | .running => "RUNNING"
  | .success => "SUCCESS"
  | .failure => "FAILURE"
  | .skipped => "SKIPPED"

/-- `ConvertNodeStatus`, with the constants of the message. -/
def convertNodeStatus : NodeStatus → UInt8
  | .running => 1
  | .success => 2
  | .failure => 3
  | .idle => 0
  | .skipped => 4

/-- `ExecuteTree::Goal` -/
structure Goal where
  targetTree : String
  payload : String
  deriving DecidableEq

/-- `ExecuteTree::Result` -/
structure Result where
  nodeStatus : UInt8 := 0
  returnMessage : String := ""
  deriving DecidableEq

/-- The state of a goal handle, with the result that ended it. -/
inductive GoalState
  | executing
  | canceling
  | succeeded (result : Result)
  | canceled (result : Result)
  | aborted (result : Result)
  deriving DecidableEq

/-- `is_active` -/
def GoalState.isActive : GoalState → Bool
  | .executing | .canceling => true
  | _ => false

/-! ## Executions -/

/-- Why `stop_action` is called. -/
inductive Stop
  | canceling
  | onLoopAfterTick
  deriving DecidableEq

def Stop.message : Stop → String
  | .canceling => "Action Server canceling and halting Behavior Tree"
  | .onLoopAfterTick => "Action Server aborted by onLoopAfterTick()"

/-- Where `execute` is. -/
inductive Point
  /-- The goal is accepted, and its thread is not started. -/
  | accepted
  | registration
  | creation
  /-- The condition of the loop, and the cancellation. -/
  | loop (status : NodeStatus)
  | tick
  | afterTick (status : NodeStatus)
  | feedback (status : NodeStatus)
  /-- `stop_action`, before the tree is halted. -/
  | halt (status : NodeStatus) (stop : Stop)
  /-- `stop_action`, before the call of `onTreeExecutionCompleted`. -/
  | stopped (status : NodeStatus) (stop : Stop)
  /-- After the loop. -/
  | completion (status : NodeStatus)
  | returned
  /-- An exception has left the thread, which ends the program. -/
  | uncaught
  deriving DecidableEq

/-- What is thrown: a `std::exception` with its text, or something else. -/
inductive Thrown
  | exception (what : String)
  | other

/-- A move of the thread: what the function that it calls returns or throws. -/
inductive Move
  /-- The parameters are not old, or `executeRegistration` returns; if not `ok`, it throws. -/
  | registration (ok : Bool)
  /-- `createTree`, `onTreeCreated` and the publisher. -/
  | create (returned : Except Thrown PUnit)
  /-- `rclcpp::ok` -/
  | look (ok : Bool)
  | tickExactlyOnce (returned : Except Thrown NodeStatus)
  | onLoopAfterTick (returned : Except Thrown (Option NodeStatus))
  | onLoopFeedback (returned : Except Thrown (Option String))
  | haltTree (returned : Except Thrown PUnit)
  | onTreeExecutionCompleted (returned : Except Thrown (Option String))

def Move.isTick : Move → Bool
  | .tickExactlyOnce _ => true
  | _ => false

/-- A goal, its handle, and its execution with the local variables that it needs. -/
structure Execution where
  goal : Goal
  state : GoalState
  point : Point
  actionResult : Result
  deriving DecidableEq

namespace Execution

/-- A goal that is accepted and executing, as it is handed to `handle_accepted`. -/
def accept (goal : Goal) : Execution where
  goal := goal
  state := .executing
  point := .accepted
  actionResult := {}

/-- The `catch` after the loop, which is for a `std::exception`. -/
def caught (x : Execution) : Thrown → Execution
  | .exception what =>
    let actionResult := { x.actionResult with
      returnMessage := "Behavior Tree exception:" ++ what }
    { x with point := .returned, actionResult := actionResult, state := .aborted actionResult }
  | .other => { x with point := .uncaught }

/-- The end of a stopped execution. -/
def stop (x : Execution) (stop : Stop) (message : Option String) : Execution :=
  let actionResult := { x.actionResult with returnMessage := message.getD stop.message }
  let state := match stop with
    | .canceling => GoalState.canceled actionResult
    | .onLoopAfterTick => .aborted actionResult
  { x with point := .returned, actionResult := actionResult, state := state }

/-- The end of an execution after its loop. -/
def complete (x : Execution) (status : NodeStatus) (message : Option String) : Execution :=
  let actionResult := {
    nodeStatus := convertNodeStatus status
    returnMessage := message.getD ("Tree finished with status: " ++ status.toStr) }
  let state := if status = .success then .succeeded actionResult else .aborted actionResult
  { x with point := .returned, actionResult := actionResult, state := state }

/-- `execute`, move by move. -/
def step (x : Execution) (move : Move) : Option Execution :=
  match x.point, move with
  | .registration, .registration ok =>
    some { x with point := if ok then .creation else .uncaught }
  | .creation, .create (.ok _) => some { x with point := .loop .running }
  | .creation, .create (.error thrown) => some (x.caught thrown)
  | .loop status, .look ok =>
    if ok ∧ status = .running then
      if x.state = .canceling then some { x with point := .halt status .canceling }
      else some { x with point := .tick }
    else some { x with point := .completion status }
  | .tick, .tickExactlyOnce (.ok status) => some { x with point := .afterTick status }
  | .tick, .tickExactlyOnce (.error thrown) => some (x.caught thrown)
  | .afterTick _, .onLoopAfterTick (.ok (some status)) =>
    some { x with point := .halt status .onLoopAfterTick }
  | .afterTick status, .onLoopAfterTick (.ok none) => some { x with point := .feedback status }
  | .afterTick _, .onLoopAfterTick (.error thrown) => some (x.caught thrown)
  | .feedback status, .onLoopFeedback (.ok _) => some { x with point := .loop status }
  | .feedback _, .onLoopFeedback (.error thrown) => some (x.caught thrown)
  | .halt status stop, .haltTree (.ok _) =>
    let actionResult := { x.actionResult with nodeStatus := convertNodeStatus status }
    some { x with point := .stopped status stop, actionResult := actionResult }
  | .halt _ _, .haltTree (.error thrown) => some (x.caught thrown)
  | .stopped _ stop, .onTreeExecutionCompleted (.ok message) => some (x.stop stop message)
  | .stopped _ _, .onTreeExecutionCompleted (.error thrown) => some (x.caught thrown)
  | .completion status, .onTreeExecutionCompleted (.ok message) =>
    some (x.complete status message)
  | .completion _, .onTreeExecutionCompleted (.error _) => some { x with point := .uncaught }
  | _, _ => none

end Execution

/-- The exceptions at the point are caught, if anything can throw there. -/
def Point.inTry : Point → Bool
  | .creation | .tick | .afterTick _ | .feedback _ | .halt _ _ | .stopped _ _ => true
  | _ => false

/-- The execution is stopped because its goal is canceling. -/
def Point.stopsCanceling : Point → Bool
  | .halt _ .canceling | .stopped _ .canceling => true
  | _ => false

namespace Execution

variable {x x' : Execution} {move : Move}

/-- The moves from each point. -/
inductive Steps (x : Execution) : Move → Execution → Prop
  | registers (hpoint : x.point = .registration) :
      Steps x (.registration true) { x with point := .creation }
  | registrationThrows (hpoint : x.point = .registration) :
      Steps x (.registration false) { x with point := .uncaught }
  | creates (hpoint : x.point = .creation) (returned : PUnit) :
      Steps x (.create (.ok returned)) { x with point := .loop .running }
  | cancels (hpoint : x.point = .loop .running) (hstate : x.state = .canceling) :
      Steps x (.look true) { x with point := .halt .running .canceling }
  | entersLoop (hpoint : x.point = .loop .running) (hstate : x.state ≠ .canceling) :
      Steps x (.look true) { x with point := .tick }
  | leavesLoop {status : NodeStatus} {ok : Bool} (hpoint : x.point = .loop status) :
      Steps x (.look ok) { x with point := .completion status }
  | ticks {status : NodeStatus} (hpoint : x.point = .tick) :
      Steps x (.tickExactlyOnce (.ok status)) { x with point := .afterTick status }
  | aborts {status status' : NodeStatus} (hpoint : x.point = .afterTick status) :
      Steps x (.onLoopAfterTick (.ok (some status')))
        { x with point := .halt status' .onLoopAfterTick }
  | goesOn {status : NodeStatus} (hpoint : x.point = .afterTick status) :
      Steps x (.onLoopAfterTick (.ok none)) { x with point := .feedback status }
  | feedsBack {status : NodeStatus} (hpoint : x.point = .feedback status)
      (message : Option String) :
      Steps x (.onLoopFeedback (.ok message)) { x with point := .loop status }
  | halts {status : NodeStatus} {stop : Stop} (hpoint : x.point = .halt status stop)
      (returned : PUnit) : Steps x (.haltTree (.ok returned)) { x with
        point := .stopped status stop
        actionResult := { x.actionResult with nodeStatus := convertNodeStatus status } }
  | stops {status : NodeStatus} {stop : Stop} (hpoint : x.point = .stopped status stop)
      (message : Option String) :
      Steps x (.onTreeExecutionCompleted (.ok message)) (x.stop stop message)
  | completes {status : NodeStatus} (hpoint : x.point = .completion status)
      (message : Option String) :
      Steps x (.onTreeExecutionCompleted (.ok message)) (x.complete status message)
  | completionThrows {status : NodeStatus} (hpoint : x.point = .completion status)
      (thrown : Thrown) :
      Steps x (.onTreeExecutionCompleted (.error thrown)) { x with point := .uncaught }
  | throws {move : Move} (hpoint : x.point.inTry = true)
      (htick : move.isTick = false ∨ x.point = .tick) (thrown : Thrown) :
      Steps x move (x.caught thrown)

theorem steps_of_step (h : x.step move = some x') : x.Steps move x' := by
  cases hpoint : x.point with
  | accepted | returned | uncaught => simp [step, hpoint] at h
  | registration =>
    cases move with
    | registration ok =>
      simp only [step, hpoint, Option.some.injEq] at h
      subst h
      cases ok with
      | true => exact .registers hpoint
      | false => exact .registrationThrows hpoint
    | _ => simp [step, hpoint] at h
  | creation =>
    cases move with
    | create returned =>
      cases returned <;> simp only [step, hpoint, Option.some.injEq] at h <;> subst h
      · exact .throws (by rw [hpoint]; rfl) (.inl rfl) _
      · exact .creates hpoint _
    | _ => simp [step, hpoint] at h
  | loop status =>
    cases move with
    | look ok =>
      simp only [step, hpoint] at h
      split_ifs at h with hok hstate <;> obtain rfl := Option.some.inj h
      · obtain ⟨rfl, rfl⟩ := hok
        exact .cancels hpoint hstate
      · obtain ⟨rfl, rfl⟩ := hok
        exact .entersLoop hpoint hstate
      · exact .leavesLoop hpoint
    | _ => simp [step, hpoint] at h
  | tick =>
    cases move with
    | tickExactlyOnce returned =>
      cases returned <;> simp only [step, hpoint, Option.some.injEq] at h <;> subst h
      · exact .throws (by rw [hpoint]; rfl) (.inr hpoint) _
      · exact .ticks hpoint
    | _ => simp [step, hpoint] at h
  | afterTick status =>
    cases move with
    | onLoopAfterTick returned =>
      rcases returned with thrown | _ | status' <;>
        simp only [step, hpoint, Option.some.injEq] at h <;> subst h
      · exact .throws (by rw [hpoint]; rfl) (.inl rfl) _
      · exact .goesOn hpoint
      · exact .aborts hpoint
    | _ => simp [step, hpoint] at h
  | feedback status =>
    cases move with
    | onLoopFeedback returned =>
      cases returned <;> simp only [step, hpoint, Option.some.injEq] at h <;> subst h
      · exact .throws (by rw [hpoint]; rfl) (.inl rfl) _
      · exact .feedsBack hpoint _
    | _ => simp [step, hpoint] at h
  | halt status stop =>
    cases move with
    | haltTree returned =>
      cases returned <;> simp only [step, hpoint, Option.some.injEq] at h <;> subst h
      · exact .throws (by rw [hpoint]; rfl) (.inl rfl) _
      · exact .halts hpoint _
    | _ => simp [step, hpoint] at h
  | stopped status stop =>
    cases move with
    | onTreeExecutionCompleted returned =>
      cases returned <;> simp only [step, hpoint, Option.some.injEq] at h <;> subst h
      · exact .throws (by rw [hpoint]; rfl) (.inl rfl) _
      · exact .stops hpoint _
    | _ => simp [step, hpoint] at h
  | completion status =>
    cases move with
    | onTreeExecutionCompleted returned =>
      cases returned <;> simp only [step, hpoint, Option.some.injEq] at h <;> subst h
      · exact .completionThrows hpoint _
      · exact .completes hpoint _
    | _ => simp [step, hpoint] at h

/-- A goal has its result just when its execution has returned, and only one that is canceling
    is stopped for that. -/
structure Valid (x : Execution) : Prop where
  ended : x.state.isActive = false ↔ x.point = .returned
  canceling : x.point.stopsCanceling = true → x.state = .canceling

/-- What a move makes of an execution: it goes on, or it returns with the result. -/
inductive Moves (x : Execution) : Execution → Prop
  | goesOn (point : Point) (actionResult : Result) (hreturned : point ≠ .returned)
      (haccepted : point ≠ .accepted)
      (hcanceling : point.stopsCanceling = true → x.state = .canceling) :
      Moves x { x with point := point, actionResult := actionResult }
  | returns (state : GoalState) (actionResult : Result) (hended : state.isActive = false)
      (hcanceled : ∀ result, state = .canceled result → x.state = .canceling) :
      Moves x { x with point := .returned, state := state, actionResult := actionResult }

theorem moves_caught (thrown : Thrown) : x.Moves (x.caught thrown) := by
  cases thrown with
  | exception what => exact .returns _ _ rfl nofun
  | other => exact .goesOn _ _ nofun nofun nofun

theorem moves_complete (status : NodeStatus) (message : Option String) :
    x.Moves (x.complete status message) := by
  refine .returns _ _ ?_ fun result => ?_
  · split <;> rfl
  · split <;> exact nofun

theorem Valid.moves_stop {status : NodeStatus} {stop : Stop} (hx : x.Valid)
    (hpoint : x.point = .stopped status stop) (message : Option String) :
    x.Moves (x.stop stop message) := by
  cases stop with
  | canceling => exact .returns _ _ rfl fun _ _ => hx.canceling (by rw [hpoint]; rfl)
  | onLoopAfterTick => exact .returns _ _ rfl nofun

theorem Valid.moves_of_step (hx : x.Valid) (h : x.step move = some x') : x.Moves x' := by
  cases steps_of_step h with
  | registers | registrationThrows | creates | entersLoop | leavesLoop | ticks | aborts | goesOn
  | feedsBack | completionThrows => exact .goesOn _ _ nofun nofun nofun
  | cancels hpoint hstate => exact .goesOn _ _ nofun nofun fun _ => hstate
  | @halts status stop hpoint =>
    refine .goesOn _ _ nofun nofun fun hstops => hx.canceling ?_
    rw [hpoint]
    cases stop <;> trivial
  | stops hpoint => exact hx.moves_stop hpoint _
  | completes => exact moves_complete _ _
  | throws => exact moves_caught _

/-- Only an execution that has started and has not ended makes a move. -/
theorem not_accepted_of_step (h : x.step move = some x') :
    x.point ≠ .accepted ∧ x.point ≠ .returned := by
  constructor <;> intro hpoint <;> simp [step, hpoint] at h

theorem Valid.moves (hx : x.Valid) (h : x.Moves x') (hpoint : x.point ≠ .returned) :
    x'.Valid := by
  cases h with
  | goesOn point actionResult hreturned _ hcanceling =>
    exact ⟨iff_of_false (fun hended => hpoint (hx.ended.1 hended)) hreturned, hcanceling⟩
  | returns state actionResult hended =>
    exact ⟨iff_of_true hended rfl, nofun⟩

end Execution

/-! ## The server -/

structure Server where
  /-- The goals that were accepted, in this order. -/
  goals : List Execution
  /-- `action_thread`: the goal that it executes or has executed, if it is joinable. -/
  actionThread : Option ℕ
  /-- The goal for which `handle_accepted` waits for the thread. -/
  joining : Option ℕ
  deriving DecidableEq

namespace Server

/-- A server without goals. -/
def init : Server where
  goals := []
  actionThread := none
  joining := none

/-- `handle_goal`, with what `onGoalReceived` returns, and the call of `handle_accepted`. -/
def handleGoal (s : Server) (goal : Goal) (received : Bool) : Server :=
  if received then
    { s with goals := s.goals ++ [.accept goal], joining := some s.goals.length }
  else s

/-- `handle_cancel`: a goal that is active is canceling; other requests are rejected. -/
def handleCancel (s : Server) (i : ℕ) : Server :=
  { s with goals := s.goals.modify i fun x =>
      if x.state.isActive then { x with state := .canceling } else x }

/-- The thread is not joinable, or it has returned. -/
def Joined (s : Server) : Prop :=
  ∀ t ∈ s.actionThread, ∀ x ∈ s.goals[t]?, x.point = .returned

/-- `handle_accepted`, after the thread is joined. -/
def start (s : Server) (i : ℕ) : Server where
  goals := s.goals.modify i fun x => { x with point := .registration }
  actionThread := some i
  joining := none

/-- No exception has ended the program. -/
def Alive (s : Server) : Prop := ∀ x ∈ s.goals, x.point ≠ .uncaught

instance (s : Server) : Decidable s.Joined :=
  inferInstanceAs (Decidable (∀ t ∈ s.actionThread, ∀ x ∈ s.goals[t]?, x.point = .returned))

instance (s : Server) : Decidable s.Alive :=
  inferInstanceAs (Decidable (∀ x ∈ s.goals, x.point ≠ .uncaught))

end Server

/-- What happens to a server. -/
inductive Event
  | handleGoal (goal : Goal) (received : Bool)
  | handleCancel (i : ℕ)
  | handleAccepted (i : ℕ)
  | execute (i : ℕ) (move : Move)

/-- The goal that an event executes. -/
def Event.executes : Event → Option ℕ
  | .execute i _ => some i
  | _ => none

/-- The event is a tick of the tree of a goal. -/
def Event.ticks (i : ℕ) : Event → Bool
  | .execute j move => j = i && move.isTick
  | _ => false

/-- What an event makes of a server, if it can happen. -/
def Server.next (s : Server) (e : Event) : Option Server :=
  if s.Alive then
    match e with
    | .handleGoal goal received =>
      if s.joining = none then some (s.handleGoal goal received) else none
    | .handleCancel i => if s.joining = none then some (s.handleCancel i) else none
    | .handleAccepted i => if s.joining = some i ∧ s.Joined then some (s.start i) else none
    | .execute i move =>
      if s.actionThread = some i then do
        let x ← s.goals[i]?
        let x' ← x.step move
        some { s with goals := s.goals.set i x' }
      else none
  else none

/-- The steps of a server. A request is handled when `handle_accepted` is not waiting (`hfree`):
    the callbacks of the server exclude each other. -/
inductive Server.Step : Server → List Event → Server → Prop
  | handleGoal {s : Server} (goal : Goal) (received : Bool) (halive : s.Alive)
      (hfree : s.joining = none) :
      Step s [.handleGoal goal received] (s.handleGoal goal received)
  | handleCancel {s : Server} (i : ℕ) (halive : s.Alive) (hfree : s.joining = none) :
      Step s [.handleCancel i] (s.handleCancel i)
  | handleAccepted {s : Server} {i : ℕ} (halive : s.Alive) (hjoining : s.joining = some i)
      (hjoined : s.Joined) : Step s [.handleAccepted i] (s.start i)
  | execute {s : Server} {i : ℕ} {move : Move} {x x' : Execution} (halive : s.Alive)
      (hthread : s.actionThread = some i) (hgoal : s.goals[i]? = some x)
      (hstep : x.step move = some x') :
      Step s [.execute i move] { s with goals := s.goals.set i x' }

namespace Server

variable {s s' : Server} {es : List Event} {i : ℕ} {x x' : Execution} {move : Move}

theorem step_of_next {e : Event} (h : s.next e = some s') : Step s [e] s' := by
  unfold next at h
  cases e with
  | handleGoal goal received =>
    dsimp only at h
    split_ifs at h with halive hfree
    obtain rfl := Option.some.inj h
    exact .handleGoal goal received halive hfree
  | handleCancel i =>
    dsimp only at h
    split_ifs at h with halive hfree
    obtain rfl := Option.some.inj h
    exact .handleCancel i halive hfree
  | handleAccepted i =>
    dsimp only at h
    split_ifs at h with halive hjoin
    obtain rfl := Option.some.inj h
    exact .handleAccepted halive hjoin.1 hjoin.2
  | execute i move =>
    dsimp only at h
    split_ifs at h with halive hthread
    obtain ⟨x, hgoal, h⟩ := Option.bind_eq_some_iff.1 h
    obtain ⟨x', hstep, h⟩ := Option.bind_eq_some_iff.1 h
    obtain rfl := Option.some.inj h
    exact .execute halive hthread hgoal hstep

/-- The events that can happen one after the other are a run. -/
theorem run_of_next (h : es.foldlM next s = some s') : Run Step s es s' := by
  induction es generalizing s with
  | nil =>
    obtain rfl := Option.some.inj h
    exact .nil s
  | cons e es ih =>
    rw [List.foldlM_cons] at h
    obtain ⟨s₁, he, h⟩ := Option.bind_eq_some_iff.1 h
    exact .cons (step_of_next he) (ih h)

/-- What a step makes of the execution of a goal. -/
inductive Changes (s : Server) (i : ℕ) (x : Execution) : List Event → Execution → Prop
  | same {es : List Event} (hexecutes : ∀ e ∈ es, e.executes ≠ some i) : Changes s i x es x
  | canceling (hfree : s.joining = none) (hactive : x.state.isActive = true) :
      Changes s i x [.handleCancel i] { x with state := .canceling }
  | started (hjoining : s.joining = some i) :
      Changes s i x [.handleAccepted i] { x with point := .registration }
  | executed {move : Move} {x' : Execution} (hthread : s.actionThread = some i)
      (hstep : x.step move = some x') : Changes s i x [.execute i move] x'

theorem Step.changes (h : Step s es s') (hx : s.goals[i]? = some x) :
    ∃ x', s'.goals[i]? = some x' ∧ s.Changes i x es x' := by
  cases h with
  | handleGoal goal received =>
    refine ⟨x, ?_, .same (by simp [Event.executes])⟩
    rw [Server.handleGoal]
    split
    · exact List.getElem?_append_left (List.getElem?_eq_some_iff.1 hx).1 ▸ hx
    · exact hx
  | handleCancel j _ hfree =>
    rw [Server.handleCancel, List.getElem?_modify, hx]
    refine ⟨_, rfl, ?_⟩
    dsimp only
    by_cases hj : j = i
    · subst hj
      rw [if_pos rfl]
      split
      next hactive => exact .canceling hfree hactive
      next => exact .same (by simp [Event.executes])
    · rw [if_neg hj]
      exact .same (by simp [Event.executes])
  | @handleAccepted j _ hjoining =>
    rw [start, List.getElem?_modify, hx]
    refine ⟨_, rfl, ?_⟩
    dsimp only
    by_cases hj : j = i
    · subst hj
      rw [if_pos rfl]
      exact .started hjoining
    · rw [if_neg hj]
      exact .same (by simp [Event.executes])
  | @execute j move y y' _ hthread hgoal hstep =>
    rw [List.getElem?_set]
    split_ifs with hj hlt
    · subst hj
      obtain rfl := Option.some.inj (hx.symm.trans hgoal)
      exact ⟨_, rfl, .executed hthread hstep⟩
    · exact absurd (List.getElem?_eq_some_iff.1 hgoal).1 hlt
    · exact ⟨x, hx, .same (by simp [Event.executes, hj])⟩

/-- A goal is valid, and has the thread, waits for it or has ended. -/
structure Fits (s : Server) (i : ℕ) (x : Execution) : Prop where
  valid : x.Valid
  accepted : x.point = .accepted ↔ s.joining = some i
  returned : s.actionThread ≠ some i → s.joining ≠ some i → x.point = .returned

/-- The goals come one after the other: the last one waits for the thread, if there is a call
    of `handle_accepted`, the one before it has the thread, and all the others have ended. -/
structure Ordered (s : Server) : Prop where
  thread : ∀ t, s.actionThread = some t →
    s.joining = none ∧ s.goals.length = t + 1 ∨ s.joining = some (t + 1) ∧ s.goals.length = t + 2
  fresh : s.actionThread = none →
    s.joining = none ∧ s.goals.length = 0 ∨ s.joining = some 0 ∧ s.goals.length = 1
  fits : ∀ (i : ℕ) (x : Execution), s.goals[i]? = some x → s.Fits i x

theorem ordered_init : init.Ordered where
  thread := nofun
  fresh := fun _ => .inl ⟨rfl, rfl⟩
  fits := by simp [init]

/-- The thread or the waiting call is at the last goal. -/
theorem Ordered.length_of_joining (hs : s.Ordered) (hjoining : s.joining = some i) :
    s.goals.length = i + 1 := by
  rcases hthread : s.actionThread with _ | t
  · rcases hs.fresh hthread with ⟨hnone, -⟩ | ⟨hsome, hlength⟩
    · exact nomatch hnone.symm.trans hjoining
    · obtain rfl := Option.some.inj (hsome.symm.trans hjoining)
      exact hlength
  · rcases hs.thread t hthread with ⟨hnone, -⟩ | ⟨hsome, hlength⟩
    · exact nomatch hnone.symm.trans hjoining
    · obtain rfl := Option.some.inj (hsome.symm.trans hjoining)
      exact hlength

theorem Ordered.handleGoal (hs : s.Ordered) (hfree : s.joining = none) (goal : Goal) :
    (s.handleGoal goal true).Ordered where
  thread t hthread := by
    rcases hs.thread t hthread with ⟨-, hlength⟩ | ⟨hjoining, -⟩
    · right
      simp [Server.handleGoal, hlength]
    · exact nomatch hfree.symm.trans hjoining
  fresh hthread := by
    rcases hs.fresh hthread with ⟨-, hlength⟩ | ⟨hjoining, -⟩
    · right
      simp [Server.handleGoal, hlength]
    · exact nomatch hfree.symm.trans hjoining
  fits i x hx := by
    rcases Nat.lt_trichotomy i s.goals.length with hlt | rfl | hgt
    · have hne : ∀ j, j < s.goals.length → ¬(s.handleGoal goal true).joining = some j := by
        rintro j hj hsome
        exact hj.ne (Option.some.inj hsome).symm
      have hfits := hs.fits i x (List.getElem?_append_left hlt ▸ hx)
      exact ⟨hfits.valid, hfits.accepted.trans (iff_of_false (by rw [hfree]; nofun) (hne i hlt)),
        fun hthread _ => hfits.returned hthread (by rw [hfree]; nofun)⟩
    · obtain rfl := Option.some.inj (List.getElem?_concat_length.symm.trans hx)
      exact ⟨⟨iff_of_false nofun nofun, nofun⟩, iff_of_true rfl rfl,
        fun _ hjoining => absurd rfl hjoining⟩
    · have hlt := (List.getElem?_eq_some_iff.1 hx).1
      simp only [Server.handleGoal, if_true, List.length_append, List.length_singleton] at hlt
      omega

theorem Ordered.handleCancel (hs : s.Ordered) (j : ℕ) : (s.handleCancel j).Ordered where
  thread t hthread := by
    rw [Server.handleCancel, List.length_modify]
    exact hs.thread t hthread
  fresh hthread := by
    rw [Server.handleCancel, List.length_modify]
    exact hs.fresh hthread
  fits i x hx := by
    rw [Server.handleCancel, List.getElem?_modify] at hx
    obtain ⟨y, hy, rfl⟩ := Option.map_eq_some_iff.1 hx
    have hfits := hs.fits i y hy
    split
    next =>
      split
      next hactive =>
        refine ⟨⟨iff_of_false nofun fun hpoint => ?_, fun _ => rfl⟩, hfits.accepted,
          hfits.returned⟩
        exact absurd (hfits.valid.ended.2 hpoint) (by rw [hactive]; nofun)
      next => exact ⟨hfits.valid, hfits.accepted, hfits.returned⟩
    next => exact ⟨hfits.valid, hfits.accepted, hfits.returned⟩

theorem Ordered.start (hs : s.Ordered) (hjoining : s.joining = some i) (hjoined : s.Joined) :
    (s.start i).Ordered where
  thread t hthread := by
    obtain rfl := Option.some.inj hthread
    rw [Server.start, List.length_modify]
    exact .inl ⟨rfl, hs.length_of_joining hjoining⟩
  fresh := nofun
  fits j x hx := by
    rw [Server.start, List.getElem?_modify] at hx
    obtain ⟨y, hy, rfl⟩ := Option.map_eq_some_iff.1 hx
    have hfits := hs.fits j y hy
    split
    next hj =>
      subst hj
      have haccepted := hfits.accepted.2 hjoining
      refine ⟨⟨iff_of_false (fun hended => ?_) nofun, nofun⟩, iff_of_false nofun nofun,
        fun hthread => absurd rfl hthread⟩
      exact nomatch haccepted.symm.trans (hfits.valid.ended.1 hended)
    next hj =>
      have hne : s.joining ≠ some j := fun hsome => hj (Option.some.inj (hjoining.symm.trans hsome))
      refine ⟨hfits.valid, iff_of_false (fun h => hne (hfits.accepted.1 h)) nofun, fun _ _ => ?_⟩
      rcases eq_or_ne s.actionThread (some j) with hthread | hthread
      · exact hjoined j hthread y hy
      · exact hfits.returned hthread hne

theorem Ordered.execute (hs : s.Ordered) (hthread : s.actionThread = some i)
    (hgoal : s.goals[i]? = some x) (hstep : x.step move = some x') :
    ({ s with goals := s.goals.set i x' } : Server).Ordered where
  thread t ht := by
    rw [List.length_set]
    exact hs.thread t ht
  fresh ht := by
    rw [List.length_set]
    exact hs.fresh ht
  fits j y hy := by
    have hfits := hs.fits i x hgoal
    rw [List.getElem?_set] at hy
    split_ifs at hy with hj hlt
    · subst hj
      obtain rfl := Option.some.inj hy
      have hmoves := hfits.valid.moves_of_step hstep
      obtain ⟨haccepted, hreturned⟩ := Execution.not_accepted_of_step hstep
      refine ⟨hfits.valid.moves hmoves hreturned, iff_of_false ?_ ?_, fun h => absurd hthread h⟩
      · cases hmoves with
        | goesOn _ _ _ h => exact h
        | returns => nofun
      · exact fun hjoining => haccepted (hfits.accepted.2 hjoining)
    · have hfitsj := hs.fits j y hy
      exact ⟨hfitsj.valid, hfitsj.accepted, hfitsj.returned⟩

theorem Ordered.step (hs : s.Ordered) (h : Step s es s') : s'.Ordered := by
  cases h with
  | handleGoal goal received halive hfree =>
    cases received with
    | true => exact hs.handleGoal hfree goal
    | false => exact hs
  | handleCancel j => exact hs.handleCancel j
  | handleAccepted halive hjoining hjoined => exact hs.start hjoining hjoined
  | execute halive hthread hgoal hstep => exact hs.execute hthread hgoal hstep

theorem Ordered.run (hs : s.Ordered) (h : Run Step s es s') : s'.Ordered :=
  h.invariant (fun _ _ _ hs hstep => Ordered.step hs hstep) hs

/-! ## Results in order -/

/-- A goal that has ended stays as it is. -/
theorem Ordered.ended_of_step (hs : s.Ordered) (h : Step s es s') (hx : s.goals[i]? = some x)
    (hended : x.state.isActive = false) : s'.goals[i]? = some x := by
  obtain ⟨x', hx', hchanges⟩ := h.changes hx
  have hfits := hs.fits i x hx
  have hpoint := hfits.valid.ended.1 hended
  cases hchanges with
  | same => exact hx'
  | canceling _ hactive => exact nomatch hactive.symm.trans hended
  | started hjoining => exact nomatch hpoint.symm.trans (hfits.accepted.2 hjoining)
  | executed _ hstep => exact absurd hpoint (Execution.not_accepted_of_step hstep).2

theorem Ordered.ended_of_run (hs : s.Ordered) (h : Run Step s es s') (hx : s.goals[i]? = some x)
    (hended : x.state.isActive = false) : s'.goals[i]? = some x := by
  have hinvariant : s'.Ordered ∧ s'.goals[i]? = some x := by
    refine h.invariant (I := fun s => s.Ordered ∧ s.goals[i]? = some x)
      (fun _ _ _ hs hstep => ?_) ⟨hs, hx⟩
    exact ⟨hs.1.step hstep, hs.1.ended_of_step hstep hs.2 hended⟩
  exact hinvariant.2

/-- The thread goes from goal to goal in their order, and executes the goal that it has. -/
theorem Ordered.thread_of_step (hs : s.Ordered) (h : Step s es s') :
    (∀ t, s.actionThread = some t → ∃ t', s'.actionThread = some t' ∧ t ≤ t') ∧
      ∀ k ∈ es.filterMap Event.executes, s.actionThread = some k ∧ s'.actionThread = some k := by
  cases h with
  | handleGoal goal received =>
    rw [Server.handleGoal]
    split <;> exact ⟨fun t ht => ⟨t, ht, le_rfl⟩, nofun⟩
  | handleCancel => exact ⟨fun t ht => ⟨t, ht, le_rfl⟩, nofun⟩
  | @handleAccepted j halive hjoining =>
    refine ⟨fun t ht => ⟨j, rfl, ?_⟩, nofun⟩
    rcases hs.thread t ht with ⟨hnone, -⟩ | ⟨hsome, -⟩
    · exact nomatch hnone.symm.trans hjoining
    · obtain rfl := Option.some.inj (hsome.symm.trans hjoining)
      exact t.le_succ
  | execute halive hthread =>
    refine ⟨fun t ht => ⟨t, ht, le_rfl⟩, fun k hk => ?_⟩
    obtain rfl := List.mem_singleton.1 hk
    exact ⟨hthread, hthread⟩

/-- Over a run, the goals are executed in their order, from the goal that has the thread before
    it to the one that has it after it. -/
theorem Ordered.thread_of_run (h : Run Step s es s') (hs : s.Ordered) :
    (∀ t, s.actionThread = some t → ∃ t', s'.actionThread = some t' ∧ t ≤ t') ∧
    (es.filterMap Event.executes).Pairwise (· ≤ ·) ∧
    ∀ k ∈ es.filterMap Event.executes, (∀ t, s.actionThread = some t → t ≤ k) ∧
      ∃ t', s'.actionThread = some t' ∧ k ≤ t' := by
  induction h with
  | nil => exact ⟨fun t ht => ⟨t, ht, le_rfl⟩, .nil, nofun⟩
  | @cons s s₁ s₂ es es' hstep _ ih =>
    obtain ⟨hmono, hexecutes⟩ := hs.thread_of_step hstep
    obtain ⟨hmono', hpairwise, hexecutes'⟩ := ih (hs.step hstep)
    refine ⟨fun t ht => ?_, ?_, fun k hk => ?_⟩
    · obtain ⟨t₁, ht₁, hle⟩ := hmono t ht
      obtain ⟨t₂, ht₂, hle'⟩ := hmono' t₁ ht₁
      exact ⟨t₂, ht₂, hle.trans hle'⟩
    · rw [List.filterMap_append, List.pairwise_append]
      refine ⟨List.pairwise_of_forall_mem_list fun j hj k hk => ?_, hpairwise,
        fun j hj k hk => (hexecutes' k hk).1 j (hexecutes j hj).2⟩
      exact (Option.some.inj ((hexecutes j hj).1.symm.trans (hexecutes k hk).1)).le
    · rw [List.filterMap_append, List.mem_append] at hk
      rcases hk with hk | hk
      · obtain ⟨hthread, hthread'⟩ := hexecutes k hk
        refine ⟨fun t ht => (Option.some.inj (ht.symm.trans hthread)).le, hmono' k hthread'⟩
      · refine ⟨fun t ht => ?_, (hexecutes' k hk).2⟩
        obtain ⟨t₁, ht₁, hle⟩ := hmono t ht
        exact hle.trans ((hexecutes' k hk).1 t₁ ht₁)

end Server

variable {s s' : Server} {es es' : List Event}

/-- The trees are executed one after the other, in the order of their goals: when one is, all
    the goals before its own have ended. The result of a goal that has ended stays the same. -/
theorem results_in_order (h : Run Server.Step .init es s) (h' : Run Server.Step s es' s') :
    (es.filterMap Event.executes).Pairwise (· ≤ ·) ∧
    (∀ (i k : ℕ) (x : Execution), k ∈ es.filterMap Event.executes → i < k → s.goals[i]? = some x →
      x.state.isActive = false) ∧
    ∀ (i : ℕ) (x : Execution), s.goals[i]? = some x → x.state.isActive = false →
      s'.goals[i]? = some x := by
  have hs := Server.ordered_init.run h
  obtain ⟨-, hpairwise, hexecutes⟩ := Server.Ordered.thread_of_run h Server.ordered_init
  refine ⟨hpairwise, fun i k x hk hik hx => ?_, fun i x hx hended => hs.ended_of_run h' hx hended⟩
  obtain ⟨-, t, hthread, hle⟩ := hexecutes k hk
  have hfits := hs.fits i x hx
  -- The thread is past the goal, and no goal before it is waiting.
  refine hfits.valid.ended.2 (hfits.returned ?_ ?_)
  · rw [hthread]
    exact fun heq => by
      have := Option.some.inj heq
      omega
  · rcases hs.thread t hthread with ⟨hnone, -⟩ | ⟨hsome, -⟩
    · rw [hnone]
      nofun
    · rw [hsome]
      exact fun heq => by
        have := Option.some.inj heq
        omega

theorem results_in_order_two : ∃ es s, Run Server.Step .init es s ∧
    es.filterMap Event.executes = [0, 0, 1] ∧
    ∀ x : Execution, s.goals[0]? = some x → x.state.isActive = false := by
  have hrun : Run Server.Step .init
      [.handleGoal ⟨"MainTree", ""⟩ true, .handleAccepted 0, .execute 0 (.registration true),
        .execute 0 (.create (.error (.exception ""))), .handleGoal ⟨"MainTree", ""⟩ true,
        .handleAccepted 1, .execute 1 (.registration true)] _ := Server.run_of_next rfl
  have hmem : 1 ∈ [0, 0, 1] := by decide
  exact ⟨_, _, hrun, rfl, fun x => (results_in_order hrun (.nil _)).2.1 0 1 x hmem Nat.one_pos⟩

end Sentry.Ros
