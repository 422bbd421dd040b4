import Sentry.Behavior.Halting

/-!
# Runs of an action node

What the tree does with an action node, call by call: it ticks the node, halts it, and resets
its status when it has completed (`runCalls`); an exception ends the run, as it ends the
program. The goal handle of a node is not cleared when the next goal is sent, so while the
response to this goal is awaited, the node may hold the handle of an earlier one.

This is what a halted node asks the client to cancel: the goal in progress, if the node has
its handle or held none before, and otherwise the earlier goal (`cancels_iff`). And it is what
results are compared with: a node succeeds with the result of the goal that it sent last, if
no result of the earlier goal comes while the response is awaited (`success_own`), and
without this, it may succeed with an earlier one (`not_success_own`).
-/

namespace Sentry.Behavior

open BehaviorTree (Status)
open Program (Ends Leaves Returns)

/-! ## Calls -/

/-- A call of the tree to a node. -/
inductive ActionCall
  | tick (input : TickInput)
  /-- `haltNode`, and the status is reset. -/
  | halt (client : Client)
  | reset

namespace RosActionNode

def exec (c : ActionClass) : ActionCall → NodeM PUnit
  | .tick input => executeTick c input
  | .halt client => do
    halt c client
    resetStatus
  | .reset => resetStatus

/-- Calls to a node, until one of them throws. -/
def runCalls (c : ActionClass) : List ActionCall → NodeM PUnit
  | [] => pure ⟨⟩
  | call :: calls => do
    exec c call
    runCalls c calls

/-- A node that has completed is reset before it is ticked, and in a tick that awaits the
    response to a goal, no result comes for the handle that is held. -/
def Fresh (n : RosActionNode) : ActionCall → Prop
  | .tick input => n.status = .idle ∨ n.status = .running ∧ (n.goalReceived = false →
      ∀ result, .result result ∈ input.callbacks → n.goalHandle ≠ some result.goalId)
  | _ => True

/-- All the calls of a run are fresh. -/
def FreshRun (c : ActionClass) : RosActionNode → List ActionCall → Prop
  | _, [] => True
  | n, call :: calls => Fresh n call ∧
    match exec c call n with
    | .ok _ n' => FreshRun c n' calls
    | .error _ _ => True

/-! ## What every call keeps -/

/-- The fields of a node agree with one another. The last goal sent is that of the future, or
    of the handle once it is received; if `fresh`, so is that of the result of a node that is
    running or has succeeded. -/
structure Consistent (fresh : Prop) (n : RosActionNode) : Prop where
  future : ∀ goal, n.futureGoalHandle = some goal → goal + 1 = n.goalsSent ∧
    n.goalReceived = false ∧ ∀ goal', n.goalHandle = some goal' → goal' < goal
  handle : ∀ goal, n.goalHandle = some goal → goal < n.goalsSent
  received : n.goalReceived = true → ∀ goal, n.goalHandle = some goal → goal + 1 = n.goalsSent
  feedback : n.onFeedbackStateChange = .running
  own : fresh → n.status = .running ∨ n.status = .success → n.result.code ≠ .unknown →
    n.goalReceived = true ∧ n.goalHandle = some n.result.goalId
  success : n.status = .success → n.result.code = .succeeded

/-- What a spin of the executor does: a result is stored if it is one of the goal of the handle. -/
def Spun (callbacks : List Callback) (n n' : RosActionNode) : Prop :=
  ∃ feedback result, n' = { n with onFeedbackStateChange := feedback, result := result } ∧
    (feedback = n.onFeedbackStateChange ∨ feedback = .running) ∧
    (result = n.result ∨ .result result ∈ callbacks ∧ n.goalHandle = some result.goalId)

variable {c : ActionClass} {client : Client} {input : TickInput} {n : RosActionNode}
  {fresh : Prop}

theorem Consistent.weaken (h : Consistent fresh n) : Consistent False n :=
  ⟨h.future, h.handle, h.received, h.feedback, False.elim, h.success⟩

/-- The callbacks of a spin, up to the first one that throws. -/
theorem ends_runCallbacks (callbacks : List Callback) (n : RosActionNode) :
    Ends (runCallbacks c callbacks) n (fun _ => Spun callbacks n) (fun _ => Spun callbacks n) := by
  induction callbacks generalizing n with
  | nil =>
    rw [runCallbacks, Program.ends_pure]
    exact ⟨_, _, rfl, .inl rfl, .inl rfl⟩
  | cons callback callbacks ih =>
    rw [runCallbacks, Program.ends_bind]
    cases callback with
    | feedback =>
      have hspun : ∀ n', Spun callbacks { n with onFeedbackStateChange := .running } n' →
          Spun (.feedback :: callbacks) n n' := by
        rintro n' ⟨feedback, result, rfl, hfeedback, hresult⟩
        refine ⟨feedback, result, rfl, .inr (or_self_iff.1 hfeedback), ?_⟩
        exact hresult.imp_right fun h => ⟨List.mem_cons_of_mem _ h.1, h.2⟩
      simp only [runCallback, ActionClass.onFeedback, Program.ends_bind, Program.ends_modify,
        reduceCtorEq, if_false, Program.ends_pure]
      exact (ih _).mono (fun _ => hspun) (fun _ => hspun)
    | result r =>
      have hspun : ∀ n', Spun callbacks n n' → Spun (.result r :: callbacks) n n' := by
        rintro n' ⟨feedback, result, rfl, hfeedback, hresult⟩
        exact ⟨feedback, result, rfl, hfeedback,
          hresult.imp_right fun h => ⟨List.mem_cons_of_mem _ h.1, h.2⟩⟩
      simp only [runCallback, Program.ends_bind, Program.ends_get]
      cases hgoal : n.goalHandle with
      | none => exact (Program.ends_throw _).2 ⟨_, _, rfl, .inl rfl, .inl rfl⟩
      | some goal =>
        dsimp only
        split
        next hsame =>
          rw [Program.ends_modify]
          refine (ih _).mono (fun _ n' => ?_) (fun _ n' => ?_) <;>
          · rintro ⟨feedback, result, rfl, hfeedback, hresult⟩
            refine ⟨feedback, result, rfl, hfeedback, .inr ?_⟩
            rcases hresult with rfl | ⟨hmem, hhandle⟩
            · exact ⟨List.mem_cons_self, hgoal.trans (congrArg some hsame)⟩
            · exact ⟨List.mem_cons_of_mem _ hmem, hhandle⟩
        next => exact (Program.ends_pure _).2 ((ih n).mono (fun _ => hspun) (fun _ => hspun))

/-- A spin keeps the node consistent, if it brings no result for a handle that is held while a
    response is awaited. -/
theorem Consistent.spun {callbacks : List Callback} {n' : RosActionNode}
    (h : Consistent fresh n) (hspun : Spun callbacks n n') (hrunning : n.status = .running)
    (hfresh : fresh → n.goalReceived = false → ∀ result, .result result ∈ callbacks →
      n.goalHandle ≠ some result.goalId) : Consistent fresh n' := by
  obtain ⟨feedback, result, rfl, hfeedback, hresult⟩ := hspun
  refine ⟨h.future, h.handle, h.received, ?_, ?_, ?_⟩
  · exact hfeedback.elim (fun heq => heq.trans h.feedback) id
  · intro hf hstatus hcode
    rcases hresult with rfl | ⟨hmem, hhandle⟩
    · exact h.own hf hstatus hcode
    · refine ⟨?_, hhandle⟩
      by_contra hreceived
      exact hfresh hf (Bool.not_eq_true _ ▸ hreceived) result hmem hhandle
  · intro hstatus
    exact absurd (hrunning.symm.trans hstatus) (by decide)

/-- The logs do not matter. -/
theorem Consistent.logged (h : Consistent fresh n) (logs : List (Level × String)) :
    Consistent fresh { n with logs := logs } :=
  ⟨h.future, h.handle, h.received, h.feedback, h.own, h.success⟩

/-- A node whose status is reset, or has failed, has nothing to say about its result. -/
theorem Consistent.quiet (h : Consistent False n) (fresh : Prop) {status : Status}
    (hstatus : status = .idle ∨ status = .failure) :
    Consistent fresh { n with status := status } := by
  refine ⟨h.future, h.handle, h.received, h.feedback, fun _ hbusy => ?_, fun hsuccess => ?_⟩ <;>
    rcases hstatus with rfl | rfl
  · simp at hbusy
  · simp at hbusy
  · simp at hsuccess
  · simp at hsuccess

@[simp] theorem ends_log {Q : PUnit → RosActionNode → Prop} {E : Fault → RosActionNode → Prop}
    (level : Level) (text : String) :
    Ends (log level text) n Q E ↔ Q ⟨⟩ { n with logs := (level, text) :: n.logs } :=
  Program.ends_modify _

/-- What was asked does not matter. -/
theorem Consistent.asked (h : Consistent fresh n) (request : Request) :
    Consistent fresh (n.asked request) :=
  ⟨h.future, h.handle, h.received, h.feedback, h.own, h.success⟩

/-- A call to the client is recorded, then it may throw; without a handle, there is none. -/
theorem ends_call {Q : PUnit → RosActionNode → Prop} {E : Fault → RosActionNode → Prop}
    {request : ℕ → Request} {goalHandle : Option ℕ} {reply : Reply}
    (hnull : goalHandle = none → E .nullPointer n)
    (hthrows : ∀ goal e, goalHandle = some goal → reply = .throws e →
      E (.thrown e) (n.asked (request goal)))
    (hreturns : ∀ goal, goalHandle = some goal → (∀ e, reply ≠ .throws e) →
      Q ⟨⟩ (n.asked (request goal))) :
    Ends (call request goalHandle reply) n Q E := by
  cases goalHandle with
  | none => exact (Program.ends_throw _).2 (hnull rfl)
  | some goal =>
    cases reply with
    | success | timeout =>
      simp only [call, Program.ends_bind, Program.ends_modify, Program.ends_pure]
      exact hreturns goal rfl (by simp)
    | throws e =>
      simp only [call, throwExn, Program.ends_bind, Program.ends_modify, Program.ends_throw]
      exact hthrows goal e rfl rfl

/-- The handle that is taken is that of the goal sent last. -/
theorem Consistent.takeGoalHandle (h : Consistent fresh n) {goal : ℕ}
    (hfuture : n.futureGoalHandle = some goal) (accepted received : Bool)
    (hresult : fresh → n.status = .running ∨ n.status = .success →
      n.result.code = .unknown) :
    Consistent fresh { n with
      goalHandle := if accepted then some goal else none
      futureGoalHandle := none
      goalReceived := received } := by
  have hlast := (h.future goal hfuture).1
  refine ⟨by simp, ?_, ?_, h.feedback, ?_, h.success⟩
  · cases accepted with
    | false => simp
    | true =>
      rintro goal' ⟨⟩
      exact Nat.lt_of_lt_of_eq goal.lt_succ_self hlast
  · cases accepted with
    | false => simp
    | true =>
      rintro - goal' ⟨⟩
      exact hlast
  · exact fun hf hstatus hcode => absurd (hresult hf hstatus) hcode

/-- Asking for the cancellation of a goal keeps the node consistent. -/
theorem ends_requestCancel (h : Consistent False n) (hrunning : n.status = .running) :
    Ends (requestCancel c client) n (fun _ => Consistent False) (fun _ => Consistent False) := by
  simp only [requestCancel, Program.ends_bind, Program.ends_get]
  refine ends_call (fun _ => h) (fun _ _ _ _ => h.asked _) fun _ _ _ => ?_
  refine ends_call (fun _ => h.asked _) (fun _ _ _ _ => (h.asked _).asked _) fun _ _ _ => ?_
  refine (ends_runCallbacks client.cancelling _).mono (fun _ n' hspun => ?_) fun _ n' hspun => ?_
  · have h' := ((h.asked _).asked _).spun hspun hrunning False.elim
    simp only [Program.ends_ite, Program.ends_bind, ends_log, Program.ends_pure]
    split <;> split
    · exact (h'.logged _).logged _
    · exact h'.logged _
    · exact h'.logged _
    · exact h'
  · exact ((h.asked _).asked _).spun hspun hrunning False.elim

/-- Cancelling keeps the node consistent. -/
theorem ends_cancelGoal (h : Consistent False n) (hrunning : n.status = .running) :
    Ends (cancelGoal c client) n (fun _ => Consistent False) (fun _ => Consistent False) := by
  rw [cancelGoal, Program.ends_bind, Program.ends_get]
  cases hgoal : n.goalHandle with
  | some goal => exact ends_requestCancel h hrunning
  | none =>
    cases hfuture : n.futureGoalHandle with
    | none => exact (ends_log _ _).2 (h.logged _)
    | some goal =>
      simp only [Program.ends_bind]
      refine (ends_runCallbacks client.waiting n).mono (fun _ n' hspun => ?_) fun _ n' hspun =>
        h.spun hspun hrunning False.elim
      have h' := h.spun hspun hrunning False.elim
      obtain ⟨feedback, result, rfl, -⟩ := hspun
      cases client.goalResponse with
      | none => exact (Program.ends_pure _).2 h'
      | some accepted =>
        simp only [RosActionNode.takeGoalHandle, Program.ends_bind, Program.ends_ite, ends_log,
          Program.ends_modify]
        have htaken := h'.takeGoalHandle hfuture accepted n.goalReceived False.elim
        split
        · exact ends_requestCancel (htaken.logged _) hrunning
        · exact ends_requestCancel htaken hrunning

theorem ends_onHalt (h : Consistent False n) :
    Ends c.onHalt n (fun _ => Consistent False) (fun _ => Consistent False) := by
  obtain ⟨_, n', hn', hconsistent⟩ :=
    (returns_onHalt (Q := fun _ => Consistent False) c).2 (h.logged (c.haltText :: n.logs))
  exact (Program.ends_of_ok hn').2 hconsistent

/-- A halt keeps the node consistent. -/
theorem ends_halt (h : Consistent False n) :
    Ends (halt c client) n (fun _ => Consistent False) (fun _ => Consistent False) := by
  simp only [halt, Program.ends_bind, Program.ends_get, Program.ends_ite, Program.ends_pure]
  split
  next hrunning =>
    exact (ends_cancelGoal h hrunning).mono (fun _ n' h' => ends_onHalt h') fun _ _ => id
  next => exact h

/-! ## Ticks -/

/-- What a tick returns becomes the status. -/
def Becomes (fresh : Prop) (status : Status) (n : RosActionNode) : Prop :=
  Consistent fresh { n with status := status }

theorem ends_onFailure (h : Consistent False n) (error : ActionNodeErrorCode) :
    Ends (c.onFailure error) n (Becomes fresh) (fun _ => Consistent False) := by
  have hlogs : ∀ text, Ends (onFailureLogging text) n (Becomes fresh)
      fun _ => Consistent False := by
    intro text
    simp only [onFailureLogging, Program.ends_bind, ends_log, Program.ends_pure]
    exact (h.logged _).quiet fresh (.inr rfl)
  cases c <;> exact hlogs _

theorem ends_checkFailure (h : Consistent False n) (error : ActionNodeErrorCode) :
    Ends (c.onFailure error >>= checkStatus) n (Becomes fresh) (fun _ => Consistent False) := by
  have hlogs : ∀ text, Ends (onFailureLogging text >>= checkStatus) n (Becomes fresh)
      fun _ => Consistent False := by
    intro text
    simp only [onFailureLogging, checkStatus, Program.ends_bind, ends_log, Program.ends_pure,
      or_true, if_true]
    exact (h.logged _).quiet fresh (.inr rfl)
  cases c <;> exact hlogs _

/-- A result that succeeded makes the node succeed, or fail. -/
theorem ends_checkResult (h : Consistent fresh n) (hrunning : n.status = .running)
    (hcode : n.result.code = .succeeded) :
    Ends (c.onResultReceived n.result >>= checkStatus) n (Becomes fresh)
      (fun _ => Consistent False) := by
  have hsuccess : ∀ logs, Becomes fresh .success { n with logs := logs } := fun logs =>
    ⟨h.future, h.handle, h.received, h.feedback, fun hf _ => h.own hf (.inl hrunning),
      fun _ => hcode⟩
  have hfailure : ∀ logs, Becomes fresh .failure { n with logs := logs } := fun logs =>
    (h.weaken.logged logs).quiet fresh (.inr rfl)
  cases c with
  | sendNav2Goal =>
    simp only [ActionClass.onResultReceived, SendNav2Goal.onResultReceived, hcode, checkStatus,
      Program.ends_bind, ends_log, Program.ends_pure, true_or, if_true]
    exact hsuccess _
  | followWaypointsAction =>
    simp only [ActionClass.onResultReceived, FollowWaypointsAction.onResultReceived, checkStatus,
      Program.ends_bind, ends_log, Program.ends_ite]
    split
    · simpa using hfailure _
    · simpa using hsuccess _
  | navigateThroughPosesAction =>
    simp only [ActionClass.onResultReceived, NavigateThroughPosesAction.onResultReceived, hcode,
      checkStatus, Program.ends_bind, ends_log, Program.ends_ite, ne_eq, not_true_eq_false,
      if_false, Program.ends_pure, true_or, if_true]
    exact hsuccess _

/-- A running node stays so. -/
theorem Consistent.running (h : Consistent fresh n) (hrunning : n.status = .running) :
    Becomes fresh .running n := by
  rw [Becomes, ← hrunning]
  exact h

/-- With its goal handle, a node waits for a result, and ends with it. -/
theorem ends_tickReceived (h : Consistent fresh n) (hrunning : n.status = .running) :
    Ends (tickReceived c input) n (Becomes fresh) (fun _ => Consistent False) := by
  simp only [tickReceived, Program.ends_bind, Program.ends_get]
  rw [if_neg (not_not_intro h.feedback)]
  cases hcode : n.result.code with
  | unknown => exact (Program.ends_pure _).2 (h.running hrunning)
  | aborted => exact ends_checkFailure h.weaken .actionAborted
  | canceled => exact ends_checkFailure h.weaken .actionCancelled
  | succeeded => exact ends_checkResult h hrunning hcode

/-- The tick of a running node: without its handle, it waits for the response. -/
theorem ends_tickRunning (h : Consistent fresh n) (hrunning : n.status = .running)
    (hfresh : fresh → n.goalReceived = false → ∀ result, .result result ∈ input.callbacks →
      n.goalHandle ≠ some result.goalId) :
    Ends (tickRunning c input) n (Becomes fresh) (fun _ => Consistent False) := by
  simp only [tickRunning, Program.ends_bind, Program.ends_get]
  refine (ends_runCallbacks input.callbacks n).mono (fun _ n' hspun => ?_) fun _ n' hspun =>
    h.weaken.spun hspun hrunning False.elim
  have h' : Consistent fresh n' := h.spun hspun hrunning hfresh
  have hrunning' : n'.status = .running := by
    obtain ⟨feedback, result, rfl, -⟩ := hspun
    exact hrunning
  cases hreceived : n'.goalReceived with
  | true =>
    simp only [if_true]
    exact ends_tickReceived h' hrunning'
  | false =>
    simp only [Bool.false_eq_true, if_false]
    cases hfuture : n'.futureGoalHandle with
    | none => exact (Program.ends_throw _).2 h'.weaken
    | some goal =>
      cases input.client.goalResponse with
      | none =>
        dsimp only
        split
        · exact ends_checkFailure h'.weaken .sendGoalTimeout
        · exact (Program.ends_pure _).2 (h'.running hrunning')
      | some accepted =>
        -- no result has come for the goal of the response
        have hresult : fresh → n'.status = .running ∨ n'.status = .success →
            n'.result.code = .unknown := by
          intro hf hstatus
          by_contra hcode
          exact absurd (h'.own hf hstatus hcode).1 (by simp [hreceived])
        have htaken := h'.takeGoalHandle hfuture accepted true hresult
        simp only [RosActionNode.takeGoalHandle, Program.ends_bind, Program.ends_ite, ends_log,
          Program.ends_modify]
        cases accepted with
        | true => simpa using ends_tickReceived htaken hrunning'
        | false => simpa using ends_checkFailure (htaken.logged _).weaken .goalRejectedByServer

/-- A node that starts has no future and no result. -/
theorem Consistent.start (h : Consistent False n) (fresh : Prop) : Consistent fresh { n with
    status := .running
    goalReceived := false
    futureGoalHandle := none
    onFeedbackStateChange := .running
    result := {} } :=
  ⟨by simp, h.handle, by simp, rfl, fun _ _ hcode => absurd rfl hcode, by simp⟩

/-- The first step of an action sends a goal, and forgets the result of the one before. -/
theorem ends_tickIdle (h : Consistent False n) :
    Ends (tickIdle c input) n (Becomes fresh) (fun _ => Consistent False) := by
  simp only [tickIdle, Program.ends_bind, Program.ends_modify]
  have hstart := h.start fresh
  cases input.setGoal with
  | error e => exact (Program.ends_throw _).2 hstart.weaken
  | ok set =>
    cases set with
    | false => exact ends_checkFailure hstart.weaken .invalidGoal
    | true =>
      dsimp only
      split
      · exact ends_onFailure hstart.weaken .serverUnreachable
      · simp only [Program.ends_bind, Program.ends_modify, Program.ends_pure]
        -- the handle that is left is that of an earlier goal
        refine ⟨?_, fun goal hgoal => Nat.lt_succ_of_lt (h.handle goal hgoal), by simp, rfl,
          fun _ _ hcode => absurd rfl hcode, by simp⟩
        rintro goal ⟨⟩
        exact ⟨rfl, rfl, h.handle⟩

theorem ends_createClient (h : Consistent False n) :
    Ends (createClient input) n (fun _ => Consistent False) (fun _ => Consistent False) := by
  have hnamed : Consistent False { n with actionName := input.portActionName } :=
    ⟨h.future, h.handle, h.received, h.feedback, h.own, h.success⟩
  simp only [createClient]
  split
  · exact (Program.ends_throw _).2 h
  · split
    · exact (Program.ends_throw _).2 h
    · simp only [Program.ends_bind, Program.ends_modify]
      split
      · simp only [Program.ends_bind, Program.ends_get, ends_log]
        exact hnamed.logged _
      · exact (Program.ends_pure _).2 hnamed

/-- A tick keeps the node consistent. -/
theorem ends_tick (h : Consistent fresh n) (hfresh : fresh → Fresh n (.tick input)) :
    Ends (tick c input) n (Becomes fresh) (fun _ => Consistent False) := by
  rw [tick]
  split
  · simp only [Program.ends_bind, Program.ends_pure]
    exact (ends_halt h.weaken).mono (fun _ n' h' => h'.quiet fresh (.inr rfl)) fun _ _ => id
  simp only [Program.ends_bind, Program.ends_get]
  cases hstatus : n.status with
  | idle =>
    -- only now, the name of the action is looked at
    simp only [true_and]
    split
    · exact Program.ends_bind.2
        ((ends_createClient h.weaken).mono (fun _ n' h' => ends_tickIdle h') fun _ _ => id)
    · exact ends_tickIdle h.weaken
  | running =>
    simp only [reduceCtorEq, false_and, if_false]
    refine ends_tickRunning h hstatus fun hf => ?_
    rcases hfresh hf with hidle | hrunning
    · exact absurd (hstatus.symm.trans hidle) (by decide)
    · exact hrunning.2
  | success | failure =>
    simp only [reduceCtorEq, false_and, if_false, Program.ends_pure]
    refine ⟨h.future, h.handle, h.received, h.feedback, fun hf => ?_, by simp⟩
    have hbusy := hfresh hf
    simp [Fresh, hstatus] at hbusy

/-! ## Runs -/

/-- A call keeps the node consistent. -/
theorem ends_exec (h : Consistent fresh n) (call : ActionCall) (hfresh : fresh → Fresh n call) :
    Ends (exec c call) n (fun _ => Consistent fresh) (fun _ => Consistent False) := by
  cases call with
  | tick input =>
    simp only [exec, executeTick, Program.ends_bind, Program.ends_modify]
    exact ends_tick h hfresh
  | halt client =>
    simp only [exec, resetStatus, Program.ends_bind, Program.ends_modify]
    exact (ends_halt h.weaken).mono (fun _ n' h' => h'.quiet fresh (.inl rfl)) fun _ _ => id
  | reset =>
    rw [exec, resetStatus, Program.ends_modify]
    exact h.weaken.quiet fresh (.inl rfl)

/-- Calls keep the node consistent. -/
theorem ends_runCalls {calls : List ActionCall} (h : Consistent fresh n)
    (hfresh : fresh → FreshRun c n calls) :
    Ends (runCalls c calls) n (fun _ => Consistent fresh) (fun _ => Consistent False) := by
  induction calls generalizing n with
  | nil => exact (Program.ends_pure _).2 h
  | cons call calls ih =>
    rw [runCalls, Program.ends_bind]
    have hexec := ends_exec (c := c) h call fun hf => (hfresh hf).1
    cases hcall : exec c call n with
    | ok a n' =>
      rw [Program.ends_of_ok hcall] at hexec ⊢
      refine ih hexec fun hf => ?_
      have hrest := (hfresh hf).2
      rwa [hcall] at hrest
    | error e n' =>
      rw [Program.ends_of_error hcall] at hexec ⊢
      exact hexec

theorem consistent_of_runCalls {calls : List ActionCall} {n' : RosActionNode}
    (h : Consistent fresh n) (hfresh : fresh → FreshRun c n calls)
    (hrun : runCalls c calls n = .ok ⟨⟩ n') : Consistent fresh n' :=
  (Program.ends_of_ok (Q := fun _ => Consistent fresh) hrun).1 (ends_runCalls h hfresh)

/-- A node is made consistent. -/
theorem init_consistent (fresh : Prop) (name actionName : String)
    (actionNameShouldBeChecked : Bool) :
    Consistent fresh (init name actionName actionNameShouldBeChecked) :=
  ⟨by simp [init], by simp [init], by simp [init], rfl, by simp [init], by simp [init]⟩

theorem Spun.requests {callbacks : List Callback} {n' : RosActionNode}
    (h : Spun callbacks n n') : n'.requests = n.requests := by
  obtain ⟨feedback, result, rfl, -⟩ := h
  rfl

end RosActionNode

open RosActionNode

/-- After any fresh calls to a node, when it has succeeded: it has a result that succeeded, of
    the goal that it sent last. -/
theorem success_own (c : ActionClass) (name actionName : String)
    (actionNameShouldBeChecked : Bool) (calls : List ActionCall) {n : RosActionNode}
    (hrun : runCalls c calls (init name actionName actionNameShouldBeChecked) = .ok ⟨⟩ n)
    (hfresh : FreshRun c (init name actionName actionNameShouldBeChecked) calls)
    (hsuccess : n.status = .success) :
    n.result.code = .succeeded ∧ n.result.goalId + 1 = n.goalsSent := by
  have h : Consistent True n :=
    consistent_of_runCalls (init_consistent _ name actionName actionNameShouldBeChecked)
      (fun _ => hfresh) hrun
  have hcode := h.success hsuccess
  obtain ⟨hreceived, hgoal⟩ := h.own trivial (.inr hsuccess) (by simp [hcode])
  exact ⟨hcode, h.received hreceived _ hgoal⟩

/-- A goal is sent, accepted, and succeeds. -/
theorem success_own_one : ∃ n, runCalls .sendNav2Goal
      [.tick {}, .tick { client := { goalResponse := some true } },
        .tick { callbacks := [.result { goalId := 0, code := .succeeded }] }]
      (init "SendNav2Goal" "/navigate_to_pose" false) = .ok ⟨⟩ n ∧ n.status = .success ∧
    n.result.code = .succeeded ∧ n.result.goalId + 1 = n.goalsSent := by
  refine ⟨_, rfl, rfl, success_own .sendNav2Goal "SendNav2Goal" "/navigate_to_pose" false
    [.tick {}, .tick { client := { goalResponse := some true } },
      .tick { callbacks := [.result { goalId := 0, code := .succeeded }] }] rfl ?_ rfl⟩
  refine ⟨.inl rfl, .inr ⟨rfl, by simp⟩, .inr ⟨rfl, ?_⟩, trivial⟩
  exact fun hreceived => absurd hreceived (by decide)

/-- The cancellation of a goal times out, and the result of this goal comes while the response
    to the next one is awaited: the node succeeds with it. -/
theorem not_success_own : ¬∀ (c : ActionClass) (name actionName : String)
    (actionNameShouldBeChecked : Bool) (calls : List ActionCall) (n : RosActionNode),
    runCalls c calls (init name actionName actionNameShouldBeChecked) = .ok ⟨⟩ n →
    n.status = .success → n.result.goalId + 1 = n.goalsSent := by
  intro h
  have hlate := h .sendNav2Goal "SendNav2Goal" "/navigate_to_pose" false
    [.tick {}, .tick { client := { goalResponse := some true } },
      .halt { getResult := .timeout, cancelGoal := .timeout }, .tick {},
      .tick { callbacks := [.result { goalId := 0, code := .succeeded }],
              client := { goalResponse := some true } }] _ rfl rfl
  exact absurd hlate (by decide)

end Sentry.Behavior
