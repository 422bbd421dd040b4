import Sentry.Ros.TreeServer

/-!
# Results and cancellation of trees

What the server makes of the ticks of a tree: a goal succeeds only if the last tick of its own
tree returned `SUCCESS`, and it is canceled only if its tree was still running
(`result_of_lastTick`). Once a goal is canceling, its tree is ticked at most once, and the
thread has at most six moves to make until it ends (`cancel_bounded`). But when the next goal
has been accepted, a goal is not cancelled any more: the requests wait for
`handle_accepted`, which waits for the goal to end (`joining_uncancelable`).
-/

namespace Sentry.Ros

open Transition (Run)

variable {s s' : Server} {es es' : List Event}

/-! ## Results and ticks -/

/-- The status that the last tick of the tree of a goal returned, after an event. -/
def Event.lastTick (i : ℕ) (last : Option NodeStatus) : Event → Option NodeStatus
  | .execute j (.tickExactlyOnce (.ok status)) => if j = i then some status else last
  | _ => last

/-- The status that the last tick of the tree of a goal has returned. -/
def lastTick (i : ℕ) (es : List Event) : Option NodeStatus := es.foldl (Event.lastTick i) none

/-- The local variables and the result of an execution agree with the last tick. -/
def Execution.Agrees (x : Execution) (last : Option NodeStatus) : Prop :=
  match x.point with
  | .accepted | .registration | .creation => last = none
  | .loop status | .completion status => last.getD .running = status
  | .tick => last.getD .running = .running
  | .afterTick status | .feedback status => last = some status
  | .halt status .canceling => status = .running ∧ last.getD .running = .running
  | .stopped _ .canceling => x.actionResult.nodeStatus = convertNodeStatus .running ∧
      last.getD .running = .running
  | .halt _ .onLoopAfterTick | .stopped _ .onLoopAfterTick | .uncaught => True
  | .returned =>
    (∀ result, x.state = .succeeded result →
      last = some .success ∧ result.nodeStatus = convertNodeStatus .success) ∧
    ∀ result, x.state = .canceled result →
      last.getD .running = .running ∧ result.nodeStatus = convertNodeStatus .running

theorem Execution.agrees_caught {x : Execution} {last : Option NodeStatus} (thrown : Thrown) :
    (x.caught thrown).Agrees last := by
  cases thrown with
  | exception what => exact ⟨nofun, nofun⟩
  | other => trivial

theorem Execution.agrees_stop {x : Execution} {last : Option NodeStatus} {status : NodeStatus}
    {stop : Stop} (hx : x.Agrees last) (hpoint : x.point = .stopped status stop)
    (message : Option String) : (x.stop stop message).Agrees last := by
  simp only [Agrees, hpoint] at hx
  cases stop with
  | canceling =>
    refine ⟨nofun, fun result hresult => ?_⟩
    obtain rfl := GoalState.canceled.inj hresult
    exact ⟨hx.2, hx.1⟩
  | onLoopAfterTick => exact ⟨nofun, nofun⟩

theorem Execution.agrees_complete {x : Execution} {last : Option NodeStatus}
    {status : NodeStatus} (hx : x.Agrees last) (hpoint : x.point = .completion status)
    (message : Option String) : (x.complete status message).Agrees last := by
  simp only [Agrees, hpoint] at hx
  simp only [Agrees, complete]
  split
  next hsuccess =>
    refine ⟨fun result hresult => ?_, nofun⟩
    obtain rfl := GoalState.succeeded.inj hresult
    subst hsuccess
    cases last with
    | none => exact nomatch hx
    | some status => exact ⟨congrArg some hx, rfl⟩
  next => exact ⟨nofun, nofun⟩

theorem Execution.Agrees.step {x x' : Execution} {move : Move} {last : Option NodeStatus} {i : ℕ}
    (hx : x.Agrees last) (h : x.step move = some x') :
    x'.Agrees (Event.lastTick i last (.execute i move)) := by
  cases steps_of_step h with
  | registrationThrows | completionThrows | aborts => trivial
  | creates hpoint =>
    simp only [Agrees, hpoint] at hx
    subst hx
    rfl
  | cancels hpoint =>
    simp only [Agrees, hpoint] at hx
    exact ⟨rfl, hx⟩
  | registers hpoint | entersLoop hpoint | leavesLoop hpoint | goesOn hpoint =>
    simp only [Agrees, hpoint] at hx
    exact hx
  | feedsBack hpoint =>
    simp only [Agrees, hpoint] at hx
    exact congrArg (Option.getD · .running) hx
  | ticks => exact if_pos rfl
  | @halts status stop hpoint =>
    simp only [Agrees, hpoint] at hx
    cases stop with
    | canceling => exact ⟨congrArg convertNodeStatus hx.1, hx.2⟩
    | onLoopAfterTick => trivial
  | stops hpoint => exact agrees_stop hx hpoint _
  | completes hpoint => exact agrees_complete hx hpoint _
  | throws => exact agrees_caught _

theorem Execution.Agrees.canceling {x : Execution} {last : Option NodeStatus}
    (hx : x.Agrees last) : ({ x with state := .canceling } : Execution).Agrees last := by
  cases hpoint : x.point with
  | returned =>
    simp only [Agrees]
    exact ⟨nofun, nofun⟩
  | halt status stop | stopped status stop =>
    cases stop with
    | canceling => simpa only [Agrees, hpoint] using hx
    | onLoopAfterTick => simp only [Agrees]
  | uncaught => simp only [Agrees]
  | _ => simpa only [Agrees, hpoint] using hx

theorem Event.lastTick_of_ne {i : ℕ} {e : Event} (h : e.executes ≠ some i)
    (last : Option NodeStatus) : e.lastTick i last = last := by
  unfold lastTick
  split
  next j status => exact if_neg fun hj => h (congrArg some hj)
  next => rfl

theorem foldl_lastTick {i : ℕ} (h : ∀ e ∈ es, e.executes ≠ some i) (last : Option NodeStatus) :
    es.foldl (Event.lastTick i) last = last := by
  induction es generalizing last with
  | nil => rfl
  | cons e es ih =>
    rw [List.foldl_cons, Event.lastTick_of_ne (h e List.mem_cons_self)]
    exact ih (fun e he => h e (List.mem_cons_of_mem _ he)) last

namespace Server

/-- What the last tick of the tree of a goal has returned agrees with its execution, if it has
    been accepted. -/
def Tracks (i : ℕ) (s : Server) (last : Option NodeStatus) : Prop :=
  s.Ordered ∧ s.goals[i]?.elim (last = none) fun x => x.Agrees last

/-- A goal that has not been accepted may be accepted by a step. -/
theorem Step.goal_of_none {i : ℕ} (h : Step s es s') (hx : s.goals[i]? = none) :
    (∀ e ∈ es, e.executes ≠ some i) ∧
      (s'.goals[i]? = none ∨ ∃ goal, s'.goals[i]? = some (.accept goal)) := by
  cases h with
  | handleGoal goal received =>
    refine ⟨by simp [Event.executes], ?_⟩
    rw [Server.handleGoal]
    split
    next =>
      rw [List.getElem?_append_right (List.getElem?_eq_none_iff.1 hx), List.getElem?_singleton]
      split_ifs
      · exact .inr ⟨goal, rfl⟩
      · exact .inl rfl
    next => exact .inl hx
  | handleCancel =>
    refine ⟨by simp [Event.executes], .inl ?_⟩
    rw [Server.handleCancel, List.getElem?_modify, hx]
    rfl
  | handleAccepted =>
    refine ⟨by simp [Event.executes], .inl ?_⟩
    rw [start, List.getElem?_modify, hx]
    rfl
  | @execute j move y y' _ _ hgoal =>
    have hne : j ≠ i := by
      rintro rfl
      simp [hx] at hgoal
    refine ⟨by simp [Event.executes, hne], .inl ?_⟩
    rw [List.getElem?_set_ne hne, hx]

theorem Tracks.step {i : ℕ} {last : Option NodeStatus} (hs : s.Tracks i last)
    (h : Step s es s') : s'.Tracks i (es.foldl (Event.lastTick i) last) := by
  obtain ⟨hordered, hlast⟩ := hs
  refine ⟨hordered.step h, ?_⟩
  rcases hx : s.goals[i]? with _ | x
  · rw [hx, Option.elim_none] at hlast
    subst hlast
    obtain ⟨hexecutes, hx' | ⟨goal, hx'⟩⟩ := h.goal_of_none hx <;>
    · rw [hx', foldl_lastTick hexecutes]
      rfl
  · rw [hx, Option.elim_some] at hlast
    obtain ⟨x', hx', hchanges⟩ := h.changes hx
    rw [hx', Option.elim_some]
    cases hchanges with
    | same hexecutes =>
      rw [foldl_lastTick hexecutes]
      exact hlast
    | canceling => exact hlast.canceling
    | started hjoining =>
      simp only [Execution.Agrees, (hordered.fits i x hx).accepted.2 hjoining] at hlast
      exact hlast
    | executed _ hstep => exact hlast.step hstep

theorem Tracks.run {i : ℕ} {last : Option NodeStatus} (h : Run Step s es s')
    (hs : s.Tracks i last) : s'.Tracks i (es.foldl (Event.lastTick i) last) := by
  induction h generalizing last with
  | nil => exact hs
  | cons hstep _ ih =>
    rw [List.foldl_append]
    exact ih (hs.step hstep)

end Server

/-- A goal succeeds only if the last tick of its own tree returned `SUCCESS`, and is canceled
    only while its tree was running, or not ticked yet. -/
theorem result_of_lastTick {i : ℕ} {x : Execution} (h : Run Server.Step .init es s)
    (hx : s.goals[i]? = some x) :
    (∀ result, x.state = .succeeded result →
      lastTick i es = some .success ∧ result.nodeStatus = convertNodeStatus .success) ∧
    ∀ result, x.state = .canceled result →
      (lastTick i es).getD .running = .running ∧
        result.nodeStatus = convertNodeStatus .running := by
  have hinit : Server.init.Tracks i none := ⟨Server.ordered_init, rfl⟩
  obtain ⟨hordered, hagrees⟩ := hinit.run h
  rw [hx, Option.elim_some] at hagrees
  have hended := (hordered.fits i x hx).valid.ended
  constructor <;> intro result hstate
  · simp only [Execution.Agrees, hended.1 (congrArg GoalState.isActive hstate)] at hagrees
    exact hagrees.1 result hstate
  · simp only [Execution.Agrees, hended.1 (congrArg GoalState.isActive hstate)] at hagrees
    exact hagrees.2 result hstate

theorem result_of_lastTick_success : ∃ es s result, Run Server.Step .init es s ∧
    s.goals[0]?.map Execution.state = some (.succeeded result) ∧
    lastTick 0 es = some .success := by
  have hrun : Run Server.Step .init
      [.handleGoal ⟨"MainTree", ""⟩ true, .handleAccepted 0, .execute 0 (.registration true),
        .execute 0 (.create (.ok ⟨⟩)), .execute 0 (.look true),
        .execute 0 (.tickExactlyOnce (.ok .success)), .execute 0 (.onLoopAfterTick (.ok none)),
        .execute 0 (.onLoopFeedback (.ok none)), .execute 0 (.look true),
        .execute 0 (.onTreeExecutionCompleted (.ok none))] _ := Server.run_of_next rfl
  have hresult := result_of_lastTick (i := 0) hrun rfl
  exact ⟨_, _, _, hrun, rfl, (hresult.1 _ rfl).1⟩

/-! ## Cancellation -/

/-- The moves left to an execution whose goal is canceling. -/
def Point.remaining : Point → ℕ
  | .accepted | .registration => 5
  | .creation => 4
  | .loop _ => 3
  | .tick => 6
  | .afterTick _ => 5
  | .feedback _ => 4
  | .halt _ _ => 2
  | .stopped _ _ | .completion _ => 1
  | .returned | .uncaught => 0

/-- The ticks left to an execution whose goal is canceling. -/
def Point.ticksLeft : Point → ℕ
  | .tick => 1
  | _ => 0

theorem Point.remaining_le (point : Point) : point.remaining ≤ 6 := by
  cases point <;> simp [remaining]

theorem Point.ticksLeft_le (point : Point) : point.ticksLeft ≤ 1 := by
  cases point <;> simp [ticksLeft]

theorem Point.remaining_pos {point : Point} (h : point.inTry = true) : 0 < point.remaining := by
  cases point with
  | accepted | registration | loop | completion | returned | uncaught => cases h
  | creation | tick | afterTick | feedback | halt | stopped => exact Nat.succ_pos _

/-- A goal that is canceling comes closer to its end with every move, and if its tree is
    ticked, this is for the last time. -/
theorem Execution.remaining_of_step {x x' : Execution} {move : Move}
    (h : x.step move = some x') (hstate : x.state = .canceling) :
    x'.point.remaining < x.point.remaining ∧
      (if move.isTick then 1 else 0) + x'.point.ticksLeft ≤ x.point.ticksLeft := by
  cases steps_of_step h with
  | throws hpoint htick thrown =>
    have hcaught : (x.caught thrown).point.remaining = 0 ∧
        (x.caught thrown).point.ticksLeft = 0 := by cases thrown <;> exact ⟨rfl, rfl⟩
    rw [hcaught.1, hcaught.2]
    refine ⟨Point.remaining_pos hpoint, ?_⟩
    rcases htick with htick | htick
    · simp [htick]
    · rw [htick]
      split <;> simp [Point.ticksLeft]
  | entersLoop _ hne => exact absurd hstate hne
  | registers hpoint | registrationThrows hpoint | creates hpoint | cancels hpoint
  | leavesLoop hpoint | ticks hpoint | aborts hpoint | goesOn hpoint | feedsBack hpoint
  | halts hpoint | stops hpoint | completes hpoint | completionThrows hpoint =>
    rw [hpoint]
    exact ⟨by simp [Point.remaining, stop, complete], le_rfl⟩

namespace Server

/-- A goal is canceling, or it has ended. -/
def Canceling (i : ℕ) (s : Server) : Prop :=
  s.Ordered ∧ ∃ x : Execution, s.goals[i]? = some x ∧
    (x.state = .canceling ∨ x.state.isActive = false)

/-- A measure of the point where the execution of a goal is. -/
def measure (m : Point → ℕ) (i : ℕ) (s : Server) : ℕ := s.goals[i]?.elim 0 fun x => m x.point

theorem measure_of_goal {m : Point → ℕ} {i : ℕ} {x : Execution} (hx : s.goals[i]? = some x) :
    s.measure m i = m x.point := by
  rw [measure, hx, Option.elim_some]

/-- Events that execute other goals do not count. -/
theorem countP_of_forall_executes {i : ℕ} (h : ∀ e ∈ es, e.executes ≠ some i) :
    (es.countP fun e => e.executes = some i) = 0 ∧ es.countP (Event.ticks i) = 0 := by
  rw [List.countP_eq_zero, List.countP_eq_zero]
  constructor <;> intro e he hcount
  · exact h e he (of_decide_eq_true hcount)
  · refine h e he ?_
    unfold Event.ticks at hcount
    split at hcount
    next j move =>
      rw [Bool.and_eq_true, decide_eq_true_eq] at hcount
      exact congrArg some hcount.1
    next => cases hcount

/-- The moves and the ticks of a goal that is canceling are limited by where it is. -/
theorem Canceling.step {i : ℕ} (hs : s.Canceling i) (h : Step s es s') :
    s'.Canceling i ∧
    (es.countP fun e => e.executes = some i) + s'.measure Point.remaining i ≤
      s.measure Point.remaining i ∧
    es.countP (Event.ticks i) + s'.measure Point.ticksLeft i ≤ s.measure Point.ticksLeft i := by
  obtain ⟨hordered, x, hx, hstate⟩ := hs
  obtain ⟨x', hx', hchanges⟩ := h.changes hx
  have hfits := hordered.fits i x hx
  rw [measure_of_goal hx', measure_of_goal hx', measure_of_goal hx, measure_of_goal hx]
  have hkeep : x'.state = .canceling ∨ x'.state.isActive = false → s'.Canceling i :=
    fun hstate' => ⟨hordered.step h, x', hx', hstate'⟩
  cases hchanges with
  | same hexecutes =>
    obtain ⟨hmoves, hticks⟩ := countP_of_forall_executes hexecutes
    rw [hmoves, hticks, Nat.zero_add, Nat.zero_add]
    exact ⟨hkeep hstate, le_rfl, le_rfl⟩
  | canceling => exact ⟨hkeep (.inl rfl), (Nat.zero_add _).le, (Nat.zero_add _).le⟩
  | started hjoining =>
    rw [hfits.accepted.2 hjoining]
    exact ⟨hkeep hstate, le_rfl, le_rfl⟩
  | @executed move _ hthread hstep =>
    have hcanceling : x.state = .canceling := hstate.resolve_right fun hended =>
      (Execution.not_accepted_of_step hstep).2 (hfits.valid.ended.1 hended)
    obtain ⟨hmoves, hticks⟩ := Execution.remaining_of_step hstep hcanceling
    refine ⟨hkeep ?_, ?_, ?_⟩
    · cases hfits.valid.moves_of_step hstep with
      | goesOn => exact .inl hcanceling
      | returns _ _ hended => exact .inr hended
    · rw [List.countP_singleton, if_pos (by simp [Event.executes])]
      omega
    · rw [List.countP_singleton]
      have hevent : Event.ticks i (.execute i move) = move.isTick := by simp [Event.ticks]
      rw [hevent]
      exact hticks

theorem Canceling.run {i : ℕ} (hs : s.Canceling i) (h : Run Step s es s') : s'.Canceling i :=
  h.invariant (fun _ _ _ hs hstep => (Canceling.step hs hstep).1) hs

end Server

/-- Once a goal is canceling, its tree is ticked at most once more, and its thread makes at most
    six moves, in which the goal stays so until it ends. -/
theorem cancel_bounded {i : ℕ} {x : Execution} (h : Run Server.Step .init es s)
    (hx : s.goals[i]? = some x) (hcanceling : x.state = .canceling)
    (h' : Run Server.Step s es' s') :
    es'.countP (Event.ticks i) ≤ 1 ∧
    (es'.countP fun e => e.executes = some i) ≤ 6 ∧
    ∃ x' : Execution, s'.goals[i]? = some x' ∧
      (x'.state = .canceling ∨ x'.state.isActive = false) := by
  have hs : s.Canceling i := ⟨Server.ordered_init.run h, x, hx, .inl hcanceling⟩
  have hticks : es'.countP (Event.ticks i) + s'.measure Point.ticksLeft i ≤
      s.measure Point.ticksLeft i := h'.countP_le (I := Server.Canceling i)
    (fun _ _ _ hs hstep => ⟨(hs.step hstep).1, (hs.step hstep).2.2⟩) hs
  have hmoves : (es'.countP fun e => e.executes = some i) + s'.measure Point.remaining i ≤
      s.measure Point.remaining i := h'.countP_le (I := Server.Canceling i)
    (fun _ _ _ hs hstep => ⟨(hs.step hstep).1, (hs.step hstep).2.1⟩) hs
  rw [Server.measure_of_goal hx] at hticks hmoves
  have hone := x.point.ticksLeft_le
  have hsix := x.point.remaining_le
  exact ⟨by omega, by omega, (hs.run h').2⟩

theorem cancel_bounded_tick : ∃ es s es' s', Run Server.Step .init es s ∧
    Run Server.Step s es' s' ∧ es'.countP (Event.ticks 0) ≤ 1 := by
  have hrun : Run Server.Step .init
      [.handleGoal ⟨"MainTree", ""⟩ true, .handleAccepted 0, .execute 0 (.registration true),
        .execute 0 (.create (.ok ⟨⟩)), .execute 0 (.look true), .handleCancel 0] _ :=
    Server.run_of_next rfl
  have hrun' : Run Server.Step ⟨[⟨⟨"MainTree", ""⟩, .canceling, .tick, {}⟩], some 0, none⟩
      [.execute 0 (.tickExactlyOnce (.ok .running))] _ := Server.run_of_next rfl
  exact ⟨_, _, _, _, hrun, hrun', (cancel_bounded (i := 0) hrun rfl rfl hrun').1⟩

namespace Server

/-- A goal has the thread while the next one waits for it, and is not canceling, or it has ended
    without being canceled. -/
def Uncancelable (t : ℕ) (s : Server) : Prop :=
  s.Ordered ∧ ∃ x : Execution, s.goals[t]? = some x ∧
    (x.state = .executing ∧ s.actionThread = some t ∧ s.joining = some (t + 1) ∨
      x.state.isActive = false ∧ ∀ result, x.state ≠ .canceled result)

theorem Uncancelable.step {t : ℕ} (hs : s.Uncancelable t) (h : Step s es s') :
    s'.Uncancelable t := by
  obtain ⟨hordered, x, hx, ⟨hexecuting, hthread, hjoining⟩ | ⟨hended, hresult⟩⟩ := hs
  · have hfits := hordered.fits t x hx
    have hordered' := hordered.step h
    cases h with
    | handleGoal _ _ _ hfree => exact nomatch hfree.symm.trans hjoining
    | handleCancel _ _ hfree => exact nomatch hfree.symm.trans hjoining
    | handleAccepted _ _ hjoined =>
      have hended := hfits.valid.ended.2 (hjoined t hthread x hx)
      exact nomatch (congrArg GoalState.isActive hexecuting).symm.trans hended
    | @execute _ move y y' _ hthread' hgoal hstep =>
      obtain rfl := Option.some.inj (hthread.symm.trans hthread')
      obtain rfl := Option.some.inj (hx.symm.trans hgoal)
      have hx' : (s.goals.set t y')[t]? = some y' :=
        List.getElem?_set_self (List.getElem?_eq_some_iff.1 hx).1
      refine ⟨hordered', y', hx', ?_⟩
      cases hfits.valid.moves_of_step hstep with
      | goesOn => exact .inl ⟨hexecuting, hthread, hjoining⟩
      | returns state _ hended hcanceled =>
        exact .inr ⟨hended, fun result heq => nomatch hexecuting.symm.trans (hcanceled result heq)⟩
  · exact ⟨hordered.step h, x, hordered.ended_of_step h hx hended, .inr ⟨hended, hresult⟩⟩

/-- As long as the goal has not ended, the thread moves, and nothing else happens. -/
theorem Uncancelable.executes_of_step {t : ℕ} (hs : s.Uncancelable t) (h : Step s es s')
    {x' : Execution} (hx' : s'.goals[t]? = some x') (hactive : x'.state.isActive = true) :
    ∀ e ∈ es, e.executes = some t := by
  obtain ⟨hordered, x, hx, ⟨hexecuting, hthread, hjoining⟩ | ⟨hended, -⟩⟩ := hs
  · cases h with
    | handleGoal _ _ _ hfree => exact nomatch hfree.symm.trans hjoining
    | handleCancel _ _ hfree => exact nomatch hfree.symm.trans hjoining
    | handleAccepted _ _ hjoined =>
      have hended := (hordered.fits t x hx).valid.ended.2 (hjoined t hthread x hx)
      exact nomatch (congrArg GoalState.isActive hexecuting).symm.trans hended
    | execute _ hthread' =>
      rintro e he
      obtain rfl := List.mem_singleton.1 he
      exact hthread'.symm.trans hthread
  · obtain rfl := Option.some.inj ((hordered.ended_of_step h hx hended).symm.trans hx')
    exact nomatch hactive.symm.trans hended

theorem Uncancelable.run {t : ℕ} (h : Run Step s es s') (hs : s.Uncancelable t) :
    s'.Uncancelable t ∧ ∀ x' : Execution, s'.goals[t]? = some x' → x'.state.isActive = true →
      ∀ e ∈ es, e.executes = some t := by
  induction h with
  | nil => exact ⟨hs, fun _ _ _ => nofun⟩
  | cons hstep hrun ih =>
    have hs₁ := hs.step hstep
    obtain ⟨hs₂, hexecutes⟩ := ih hs₁
    refine ⟨hs₂, fun x₂ hx₂ hactive e he => ?_⟩
    obtain ⟨hordered₁, x₁, hx₁, -⟩ := id hs₁
    rcases List.mem_append.1 he with he | he
    · refine hs.executes_of_step hstep hx₁ ?_ e he
      by_contra hended
      rw [Bool.not_eq_true] at hended
      obtain rfl := Option.some.inj ((hordered₁.ended_of_run hrun hx₁ hended).symm.trans hx₂)
      exact nomatch hactive.symm.trans hended
    · exact hexecutes x₂ hx₂ hactive e he

end Server

/-- A goal that is executing when the next one waits for its thread is not canceled any more:
    until it ends, no request is handled. -/
theorem joining_uncancelable {t i : ℕ} {x : Execution} (h : Run Server.Step .init es s)
    (hthread : s.actionThread = some t) (hjoining : s.joining = some i)
    (hx : s.goals[t]? = some x) (hexecuting : x.state = .executing)
    (h' : Run Server.Step s es' s') :
    ∃ x' : Execution, s'.goals[t]? = some x' ∧ x'.state ≠ .canceling ∧
      (∀ result, x'.state ≠ .canceled result) ∧
      (x'.state.isActive = true → ∀ e ∈ es', e.executes = some t) := by
  have hordered := Server.ordered_init.run h
  have hs : s.Uncancelable t := by
    refine ⟨hordered, x, hx, .inl ⟨hexecuting, hthread, ?_⟩⟩
    rcases hordered.thread t hthread with ⟨hnone, -⟩ | ⟨hsome, -⟩
    · exact nomatch hnone.symm.trans hjoining
    · exact hsome
  obtain ⟨⟨-, x', hx', hstate⟩, hexecutes⟩ := hs.run h'
  refine ⟨x', hx', ?_, ?_, hexecutes x' hx'⟩
  · rcases hstate with ⟨hstate, -⟩ | ⟨hended, -⟩
    · rw [hstate]
      nofun
    · rintro hcanceling
      exact nomatch (congrArg GoalState.isActive hcanceling).symm.trans hended
  · rcases hstate with ⟨hstate, -⟩ | ⟨-, hresult⟩
    · rw [hstate]
      nofun
    · exact hresult

theorem joining_uncancelable_next : ∃ es s es' s', Run Server.Step .init es s ∧
    s.joining = some 1 ∧ Run Server.Step s es' s' ∧
    ∃ x : Execution, s'.goals[0]? = some x ∧ x.state ≠ .canceling := by
  have hrun : Run Server.Step .init
      [.handleGoal ⟨"MainTree", ""⟩ true, .handleAccepted 0, .handleGoal ⟨"MainTree", ""⟩ true]
      _ := Server.run_of_next rfl
  have hrun' : Run Server.Step
      ⟨[⟨⟨"MainTree", ""⟩, .executing, .registration, {}⟩, .accept ⟨"MainTree", ""⟩],
        some 0, some 1⟩
      [.execute 0 (.registration true)] _ := Server.run_of_next rfl
  obtain ⟨x, hx, hstate, -⟩ := joining_uncancelable hrun rfl rfl rfl rfl hrun'
  exact ⟨_, _, _, _, hrun, rfl, hrun', x, hx, hstate⟩

end Sentry.Ros
