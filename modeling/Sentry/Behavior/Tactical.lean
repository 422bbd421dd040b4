import Sentry.Behavior.World

/-!
# The tactical tree

The tree of `tactical_front_tree.xml`, ticked by the main loop after the messages that
have come are delivered (`State.iterate`).

Between two ticks, the tree is in one of five phases (`Phase`), whatever has happened
before: all its statuses and indices are those of `Phase.tree`. A tick in a phase
(`move`) visits a few leaves in a row, and goes to a phase again (`tick_tree`).
-/

namespace Sentry.Behavior

open BehaviorTree (Status Node Outcome)
open BehaviorTree.Node
open Sentry.Talker (SerialReceiveData)

/-! ## The tree -/

/-- The leaves of the tree. -/
inductive Leaf
  | writeToBlackboard
  | hpCondition
  | setSentryMode (branch : Branch)
  | announceBehavior (branch : Branch)
  | pubNav2Goal (branch : Branch)
  | waitUntilReached (branch : Branch)
  | loadWaypoints
  | getCurrentWaypoint
  | waitDuration
  | nextWaypoint
  deriving DecidableEq

/-- What the leaves do. -/
@[simp] def sem (env : Env) : Leaf → BehaviorTree.Leaf World
  | .writeToBlackboard => .sync World.writeToBlackboard
  | .hpCondition => .sync World.hpCondition
  | .setSentryMode branch => .sync (World.setSentryMode env branch)
  | .announceBehavior branch => .sync (World.announceBehavior branch)
  | .pubNav2Goal branch => .sync (World.pubNav2Goal env branch)
  | .waitUntilReached branch =>
    .stateful (World.startWait branch) (World.checkReached env branch)
  | .loadWaypoints => .sync (World.loadWaypoints env)
  | .getCurrentWaypoint => .sync World.getCurrentWaypoint
  | .waitDuration => .stateful (World.startDuration env) (World.checkDuration env)
  | .nextWaypoint => .sync World.nextWaypoint

/-- The first child of the fallback. -/
def writeNode : Node Leaf := .inverter (.leaf .writeToBlackboard .idle) .idle

/-- The branch for low health. -/
def homeBranch : Node Leaf :=
  .reactiveSequence [.leaf .hpCondition .idle,
    .sequence [.leaf (.setSentryMode .home) .idle, .leaf (.announceBehavior .home) .idle,
      .leaf (.pubNav2Goal .home) .idle, .leaf (.waitUntilReached .home) .idle] 0 .idle] .idle

/-- Driving to a waypoint. -/
def driveNode : Node Leaf :=
  .sequence [.leaf (.pubNav2Goal .patrol) .idle, .leaf (.waitUntilReached .patrol) .idle] 0 .idle

/-- From one waypoint to the next. -/
def lapNode : Node Leaf :=
  .sequence [.leaf .getCurrentWaypoint .idle, driveNode, .leaf .waitDuration .idle,
    .leaf .nextWaypoint .idle] 0 .idle

/-- The patrol branch. -/
def patrolBranch : Node Leaf :=
  .reactiveSequence [.sequence [.leaf (.setSentryMode .patrol) .idle,
    .leaf (.announceBehavior .patrol) .idle, .leaf .loadWaypoints .idle,
    .keepRunning lapNode .idle] 0 .idle] .idle

/-- `Main_tree` -/
def mainTree : Node Leaf :=
  .keepRunning (.reactiveFallback [writeNode, homeBranch, patrolBranch] .idle) .idle

/-! ## The main loop -/

/-- The state of the program between two iterations of its main loop. -/
structure State where
  tree : Node Leaf
  world : World

/-- `spin_some`: the callback of `WriteToBlackboard` for each message. -/
def World.deliver (w : World) (msgs : List SerialReceiveData) : World :=
  msgs.foldl (fun w msg => { w with writer := .callback msg }) w

/-- An iteration of the main loop: the messages that have come are delivered, then the
    tree is ticked. -/
def State.iterate (env : Env) (s : State) (msgs : List SerialReceiveData) :
    List (Leaf × World) × State :=
  let r := tickOnce (sem env) s.tree (s.world.deliver msgs)
  (r.visits, ⟨r.result, r.world⟩)

/-- Iterations of the main loop, with the messages delivered in each. -/
def State.run (env : Env) (s : State) : List (List SerialReceiveData) → List (Leaf × World) × State
  | [] => ([], s)
  | msgs :: inputs =>
    let next := s.iterate env msgs
    let rest := next.2.run env inputs
    (next.1 ++ rest.1, rest.2)

/-- The program when its main loop starts, with the parameters of `main`. -/
def State.init (homePosition : PoseStamped) (zoneModeTopic frontPatrolCsv : String) : State where
  tree := mainTree
  world :=
    { board :=
        { homePosition := homePosition
          zoneModeTopic := zoneModeTopic
          frontPatrolCsv := frontPatrolCsv } }

/-! ## Phases -/

/-- The phases of the tree between two ticks. -/
inductive Phase
  /-- No node is running, but maybe the root. -/
  | idle
  /-- Waiting to reach home. -/
  | home
  /-- Waiting to reach a waypoint. -/
  | drive
  /-- Waiting at a waypoint. -/
  | pause
  /-- Between two waypoints. -/
  | lap
  deriving DecidableEq

/-- The branch for low health, waiting to reach home. -/
def homeWaiting : Node Leaf :=
  .reactiveSequence [.leaf .hpCondition .idle,
    .sequence [.leaf (.setSentryMode .home) .success, .leaf (.announceBehavior .home) .success,
      .leaf (.pubNav2Goal .home) .success, .leaf (.waitUntilReached .home) .running] 3 .running]
    .running

/-- The patrol branch, in its loop. -/
def patrolLooping (lap : Node Leaf) : Node Leaf :=
  .reactiveSequence [.sequence [.leaf (.setSentryMode .patrol) .success,
    .leaf (.announceBehavior .patrol) .success, .leaf .loadWaypoints .success,
    .keepRunning lap .running] 3 .running] .running

/-- Waiting to reach a waypoint. -/
def lapDriving : Node Leaf :=
  .sequence [.leaf .getCurrentWaypoint .success,
    .sequence [.leaf (.pubNav2Goal .patrol) .success,
      .leaf (.waitUntilReached .patrol) .running] 1 .running,
    .leaf .waitDuration .idle, .leaf .nextWaypoint .idle] 1 .running

/-- Waiting at a waypoint. -/
def lapPausing : Node Leaf :=
  .sequence [.leaf .getCurrentWaypoint .success,
    .sequence [.leaf (.pubNav2Goal .patrol) .idle, .leaf (.waitUntilReached .patrol) .idle] 0
      .success,
    .leaf .waitDuration .running, .leaf .nextWaypoint .idle] 2 .running

/-- The branch for low health in a phase. -/
@[simp] def Phase.homeNode : Phase → Node Leaf
  | .home => homeWaiting
  | _ => homeBranch

/-- The patrol branch in a phase. -/
@[simp] def Phase.patrolNode : Phase → Node Leaf
  | .drive => patrolLooping lapDriving
  | .pause => patrolLooping lapPausing
  | .lap => patrolLooping lapNode
  | _ => patrolBranch

/-- The tree with these branches, and with the statuses of its fallback and of its root. -/
def treeWith (fallback root : Status) (home patrol : Node Leaf) : Node Leaf :=
  .keepRunning (.reactiveFallback [writeNode, home, patrol] fallback) root

/-- The tree in a phase, with the status of its root. -/
def Phase.tree (root : Status) (phase : Phase) : Node Leaf :=
  treeWith (if phase = .idle then .idle else .running) root phase.homeNode phase.patrolNode

/-- What a tick comes to, from one phase to the next. -/
structure Move where
  visits : List (Leaf × World)
  phase : Phase
  world : World

/-- A move after some visits. -/
def Move.after (visits : List (Leaf × World)) (m : Move) : Move :=
  { m with visits := visits ++ m.visits }

/-- Going on to the next waypoint. -/
def nextMove (w : World) : Move :=
  let r := w.nextWaypoint
  ⟨[(.nextWaypoint, w)], if r.1 = .success then .lap else .idle, r.2⟩

/-- Waiting at a waypoint, by a node with the given status. -/
def pauseMove (env : Env) (status : Status) (w : World) : Move :=
  let r := (sem env .waitDuration).tick status w
  if r.1 = .running then ⟨[(.waitDuration, w)], .pause, r.2⟩
  else (nextMove r.2).after [(.waitDuration, w)]

/-- Waiting to reach a waypoint. -/
def driveMove (env : Env) (w : World) : Move :=
  let r := w.checkReached env .patrol
  if r.1 = .success then (pauseMove env .idle r.2).after [(.waitUntilReached .patrol, w)]
  else ⟨[(.waitUntilReached .patrol, w)], .drive, r.2⟩

/-- Setting out for the current waypoint. -/
def lapMove (env : Env) (w : World) : Move :=
  let goal := w.getCurrentWaypoint
  if goal.1 = .success then
    let pub := goal.2.pubNav2Goal env .patrol
    ⟨[(.getCurrentWaypoint, w), (.pubNav2Goal .patrol, goal.2), (.waitUntilReached .patrol, pub.2)],
      .drive, (pub.2.startWait .patrol).2⟩
  else ⟨[(.getCurrentWaypoint, w)], .idle, goal.2⟩

/-- Starting the patrol. -/
def patrolMove (env : Env) (w : World) : Move :=
  let mode := w.setSentryMode env .patrol
  let announced := mode.2.announceBehavior .patrol
  let loaded := announced.2.loadWaypoints env
  let visits := [(.setSentryMode .patrol, w), (.announceBehavior .patrol, mode.2),
    (.loadWaypoints, announced.2)]
  if loaded.1 = .success then (lapMove env loaded.2).after visits else ⟨visits, .idle, loaded.2⟩

/-- Setting out for home. -/
def goHomeMove (env : Env) (w : World) : Move :=
  let mode := w.setSentryMode env .home
  let announced := mode.2.announceBehavior .home
  let pub := announced.2.pubNav2Goal env .home
  ⟨[(.setSentryMode .home, w), (.announceBehavior .home, mode.2),
    (.pubNav2Goal .home, announced.2), (.waitUntilReached .home, pub.2)], .home,
    (pub.2.startWait .home).2⟩

/-- Waiting to reach home. -/
def homeMove (env : Env) (w : World) : Move :=
  let r := w.checkReached env .home
  ⟨[(.waitUntilReached .home, w)], if r.1 = .success then .idle else .home, r.2⟩

/-- What the patrol branch does in a phase, with enough health. -/
def patrolNodeMove (env : Env) (w : World) : Phase → Move
  | .idle => patrolMove env w
  | .home => patrolMove env w
  | .drive => driveMove env w
  | .pause => pauseMove env .running w
  | .lap => lapMove env w

/-- What the branch for low health does in a phase, with low health. -/
def homeNodeMove (env : Env) (w : World) (phase : Phase) : Move :=
  if phase = .home then homeMove env w else goHomeMove env w

/-- A tick of the tree in a phase. -/
def move (env : Env) (phase : Phase) (w : World) : Move :=
  let written := w.writeToBlackboard
  if written.1 = .success then
    let low := written.2.hpCondition
    let rest :=
      if low.1 = .success then homeNodeMove env low.2 phase else patrolNodeMove env low.2 phase
    rest.after [(.writeToBlackboard, w), (.hpCondition, written.2)]
  else ⟨[(.writeToBlackboard, w)], .idle, written.2⟩

/-! ## Ticking the branches -/

section

variable {env : Env} {w w' w'' : World} {visits visits' : List (Leaf × World)}
  {home patrol lap : Node Leaf} {fallback root : Status}

/-- What ticking a lap returns, when it comes to a phase. -/
@[simp] def Phase.lapOutcome (w : World) (visits : List (Leaf × World)) :
    Phase → Outcome Leaf World (Node Leaf)
  | .drive => ⟨.running, lapDriving, w, visits⟩
  | .pause => ⟨.running, lapPausing, w, visits⟩
  | .lap => ⟨.success, lapNode.setStatus .success, w, visits⟩
  | _ => ⟨.failure, lapNode.setStatus .failure, w, visits⟩

/-- What ticking the patrol branch returns, when it comes to a phase. -/
@[simp] def Phase.patrolOutcome (w : World) (visits : List (Leaf × World)) :
    Phase → Outcome Leaf World (Node Leaf)
  | .drive => ⟨.running, patrolLooping lapDriving, w, visits⟩
  | .pause => ⟨.running, patrolLooping lapPausing, w, visits⟩
  | .lap => ⟨.running, patrolLooping lapNode, w, visits⟩
  | _ => ⟨.failure, patrolBranch.setStatus .failure, w, visits⟩

/-- What ticking the branch for low health returns, when it comes to a phase. -/
@[simp] def Phase.homeOutcome (w : World) (visits : List (Leaf × World)) :
    Phase → Outcome Leaf World (Node Leaf)
  | .home => ⟨.running, homeWaiting, w, visits⟩
  | _ => ⟨.success, homeBranch.setStatus .success, w, visits⟩

/-- With enough health, the branch for low health fails. -/
theorem tick_home_high (h : w.hpCondition.1 = .failure) (phase : Phase) :
    tick (sem env) phase.homeNode w =
      ⟨.failure, homeBranch.setStatus .failure, w.hpCondition.2, [(.hpCondition, w)]⟩ := by
  cases phase <;> simp [homeBranch, homeWaiting, h]

/-- Setting out for home. -/
theorem tick_homeBranch (h : w.hpCondition.1 = .success) :
    tick (sem env) homeBranch w = (goHomeMove env w.hpCondition.2).phase.homeOutcome
      (goHomeMove env w.hpCondition.2).world
      ((.hpCondition, w) :: (goHomeMove env w.hpCondition.2).visits) := by
  have hpub : ∀ w : World, (w.pubNav2Goal env .home).1 = .success := fun w =>
    World.pubNav2Goal_status env rfl
  have hwait : ∀ w : World, (w.startWait .home).1 = .running := fun w =>
    World.startWait_status rfl
  simp [homeBranch, homeWaiting, h, hpub, hwait, goHomeMove]

/-- Waiting to reach home. -/
theorem tick_homeWaiting (h : w.hpCondition.1 = .success) :
    tick (sem env) homeWaiting w = (homeMove env w.hpCondition.2).phase.homeOutcome
      (homeMove env w.hpCondition.2).world
      ((.hpCondition, w) :: (homeMove env w.hpCondition.2).visits) := by
  rcases World.checkReached_status env .home w.hpCondition.2 with hr | hr <;>
    simp [homeBranch, homeWaiting, h, hr, homeMove]

/-- The branch for low health in a phase. -/
theorem tick_homeNode (h : w.hpCondition.1 = .success) (phase : Phase) :
    tick (sem env) phase.homeNode w = (homeNodeMove env w.hpCondition.2 phase).phase.homeOutcome
      (homeNodeMove env w.hpCondition.2 phase).world
      ((.hpCondition, w) :: (homeNodeMove env w.hpCondition.2 phase).visits) := by
  cases phase with
  | home => exact tick_homeWaiting h
  | _ => exact tick_homeBranch h

/-- Setting out for a waypoint. -/
theorem tick_lapNode (env : Env) (w : World) : tick (sem env) lapNode w =
    (lapMove env w).phase.lapOutcome (lapMove env w).world (lapMove env w).visits := by
  rcases World.getCurrentWaypoint_status w with h | h
  · obtain ⟨goal, hgoal⟩ := World.getCurrentWaypoint_goalPose h
    have hpub := World.pubNav2Goal_status env hgoal
    have hwait : ((w.getCurrentWaypoint.2.pubNav2Goal env .patrol).2.startWait .patrol).1 =
        .running := World.startWait_status (by rw [World.pubNav2Goal_goalPose, hgoal])
    simp [lapNode, lapDriving, driveNode, h, hpub, hwait, lapMove]
  · simp [lapNode, driveNode, h, lapMove]

/-- Waiting at a waypoint. -/
theorem tick_lapPausing (w : World) : tick (sem env) lapPausing w =
    (pauseMove env .running w).phase.lapOutcome (pauseMove env .running w).world
      (pauseMove env .running w).visits := by
  rcases World.checkDuration_status env w with h | h
  · rcases World.nextWaypoint_status (w.checkDuration env).2 with hn | hn <;>
      simp [lapPausing, lapNode, driveNode, h, hn, pauseMove, nextMove, Move.after]
  · simp [lapPausing, h, pauseMove]

/-- Waiting to reach a waypoint. -/
theorem tick_lapDriving (w : World) : tick (sem env) lapDriving w =
    (driveMove env w).phase.lapOutcome (driveMove env w).world (driveMove env w).visits := by
  rcases World.checkReached_status env .patrol w with h | h
  · rcases World.startDuration_status env (w.checkReached env .patrol).2 with hs | hs
    · rcases World.nextWaypoint_status ((w.checkReached env .patrol).2.startDuration env).2
        with hn | hn <;>
        simp [lapDriving, lapNode, driveNode, h, hs, hn, driveMove, pauseMove, nextMove, Move.after]
    · simp [lapDriving, lapPausing, h, hs, driveMove, pauseMove, Move.after]
  · simp [lapDriving, h, driveMove]

@[simp] theorem resetStatus_lapNode : lapNode.resetStatus = lapNode := rfl

@[simp] theorem resetStatus_homeBranch : homeBranch.resetStatus = homeBranch := rfl

@[simp] theorem resetStatus_patrolBranch : patrolBranch.resetStatus = patrolBranch := rfl

/-- The patrol branch goes on with its lap. -/
theorem tick_patrolLooping {phase : Phase}
    (h : tick (sem env) lap w = phase.lapOutcome w' visits) :
    tick (sem env) (patrolLooping lap) w = phase.patrolOutcome w' visits := by
  cases phase <;> simp [patrolLooping, patrolBranch, h]

/-- The patrol branch sets out. -/
theorem tick_patrolBranch (w : World) : tick (sem env) patrolBranch w =
    (patrolMove env w).phase.patrolOutcome (patrolMove env w).world (patrolMove env w).visits := by
  rcases World.loadWaypoints_status env (((w.setSentryMode env .patrol).2.announceBehavior
    .patrol).2) with h | h
  · have hlap := tick_lapNode env ((((w.setSentryMode env .patrol).2.announceBehavior
      .patrol).2.loadWaypoints env).2)
    generalize hm : lapMove env _ = m at hlap
    cases hp : m.phase <;>
      simp [patrolBranch, patrolLooping, h, hlap, hm, hp, patrolMove, Move.after]
  · simp [patrolBranch, h, patrolMove]

/-- The patrol branch in a phase. -/
theorem tick_patrolNode (phase : Phase) (w : World) : tick (sem env) phase.patrolNode w =
    (patrolNodeMove env w phase).phase.patrolOutcome (patrolNodeMove env w phase).world
      (patrolNodeMove env w phase).visits := by
  cases phase with
  | idle => exact tick_patrolBranch w
  | home => exact tick_patrolBranch w
  | drive => exact tick_patrolLooping (tick_lapDriving w)
  | pause => exact tick_patrolLooping (tick_lapPausing w)
  | lap => exact tick_patrolLooping (tick_lapNode env w)

/-! ## Ticking the tree -/

theorem reset_homeNode (phase : Phase) : phase.homeNode.reset = homeBranch := by
  cases phase <;> rfl

theorem reset_patrolNode (phase : Phase) : phase.patrolNode.reset = patrolBranch := by
  cases phase <;> rfl

/-- Without a message, both branches are reset. -/
theorem tickOnce_noMessage (hwrite : w.writeToBlackboard.1 = .failure) :
    tickOnce (sem env) (treeWith fallback root home patrol) w =
      ⟨.running, treeWith .idle .running home.reset patrol.reset, w.writeToBlackboard.2,
        [(.writeToBlackboard, w)]⟩ := by
  simp [treeWith, tickOnce, writeNode, hwrite]

/-- When the branch for low health does not fail, the patrol branch is reset. -/
theorem tickOnce_home (hwrite : w.writeToBlackboard.1 = .success)
    {phase : Phase} (hphase : phase = .idle ∨ phase = .home) (hpatrol : patrol.reset = patrolBranch)
    (hhome : tick (sem env) home w.writeToBlackboard.2 = phase.homeOutcome w' visits) :
    tickOnce (sem env) (treeWith fallback root home patrol) w =
      ⟨.running, phase.tree .running, w', (.writeToBlackboard, w) :: visits⟩ := by
  rcases hphase with rfl | rfl <;>
    simp [Phase.tree, hpatrol, treeWith, tickOnce, writeNode, hwrite, hhome]

/-- When the branch for low health fails, the patrol branch is ticked. -/
theorem tickOnce_patrol (hwrite : w.writeToBlackboard.1 = .success)
    {phase : Phase} (hphase : phase ≠ .home)
    (hhome : tick (sem env) home w.writeToBlackboard.2 =
      ⟨.failure, homeBranch.setStatus .failure, w', visits⟩)
    (hpatrol : tick (sem env) patrol w' = phase.patrolOutcome w'' visits') :
    ∃ status root', tickOnce (sem env) (treeWith fallback root home patrol) w = ⟨status,
      phase.tree root', w'', (.writeToBlackboard, w) :: (visits ++ visits')⟩ := by
  cases phase <;>
    simp [Phase.tree, treeWith, tickOnce, writeNode, hwrite, hhome, hpatrol] at hphase ⊢

/-! The patrol branch never goes home, and the branch for low health never patrols. -/

theorem nextMove_phase (w : World) : (nextMove w).phase ≠ .home := by
  simp only [nextMove]
  split <;> simp

theorem pauseMove_phase (status : Status) (w : World) : (pauseMove env status w).phase ≠ .home := by
  simp only [pauseMove]
  split
  · simp
  · exact nextMove_phase _

theorem lapMove_phase (w : World) : (lapMove env w).phase ≠ .home := by
  simp only [lapMove]
  split <;> simp

theorem patrolMove_phase (w : World) : (patrolMove env w).phase ≠ .home := by
  simp only [patrolMove]
  split
  · exact lapMove_phase _
  · simp

theorem driveMove_phase (w : World) : (driveMove env w).phase ≠ .home := by
  simp only [driveMove]
  split
  · exact pauseMove_phase _ _
  · simp

theorem patrolNodeMove_phase (phase : Phase) (w : World) :
    (patrolNodeMove env w phase).phase ≠ .home := by
  cases phase with
  | idle | home => exact patrolMove_phase w
  | drive => exact driveMove_phase w
  | pause => exact pauseMove_phase _ w
  | lap => exact lapMove_phase w

theorem homeNodeMove_phase (phase : Phase) (w : World) :
    (homeNodeMove env w phase).phase = .idle ∨ (homeNodeMove env w phase).phase = .home := by
  simp only [homeNodeMove, homeMove, goHomeMove]
  split
  · split <;> simp
  · simp

/-- A tick of the tree in a phase is a move to a phase. -/
theorem tick_tree (env : Env) (root : Status) (phase : Phase) (w : World) :
    ∃ status root', tickOnce (sem env) (phase.tree root) w =
      ⟨status, (move env phase w).phase.tree root', (move env phase w).world,
        (move env phase w).visits⟩ := by
  rcases w.writeToBlackboard_status with hwrite | hwrite
  · rcases w.writeToBlackboard.2.hpCondition_status with hlow | hhigh
    · have hmove : move env phase w = (homeNodeMove env w.writeToBlackboard.2.hpCondition.2
          phase).after [(.writeToBlackboard, w), (.hpCondition, w.writeToBlackboard.2)] := by
        simp [move, hwrite, hlow]
      refine ⟨.running, .running, ?_⟩
      rw [Phase.tree, tickOnce_home hwrite (homeNodeMove_phase phase _) (reset_patrolNode phase)
        (tick_homeNode hlow phase), hmove]
      rfl
    · have hmove : move env phase w = (patrolNodeMove env w.writeToBlackboard.2.hpCondition.2
          phase).after [(.writeToBlackboard, w), (.hpCondition, w.writeToBlackboard.2)] := by
        simp [move, hwrite, hhigh]
      rw [hmove]
      exact tickOnce_patrol hwrite (patrolNodeMove_phase phase _) (tick_home_high hhigh phase)
        (tick_patrolNode phase _)
  · refine ⟨.running, .running, ?_⟩
    rw [Phase.tree, tickOnce_noMessage hwrite, reset_homeNode, reset_patrolNode]
    simp [move, hwrite, Phase.tree]

end

/-! ## Iterations -/

variable {env : Env} {s : State} {root : Status} {phase : Phase}

/-- The tree starts in a phase. -/
theorem State.tree_init (homePosition : PoseStamped) (zoneModeTopic frontPatrolCsv : String) :
    (State.init homePosition zoneModeTopic frontPatrolCsv).tree = Phase.idle.tree .idle := rfl

/-- An iteration in a phase is a move to a phase. -/
theorem State.iterate_tree (env : Env) (h : s.tree = phase.tree root)
    (msgs : List SerialReceiveData) :
    ∃ root', s.iterate env msgs = ((move env phase (s.world.deliver msgs)).visits,
      ⟨(move env phase (s.world.deliver msgs)).phase.tree root',
        (move env phase (s.world.deliver msgs)).world⟩) := by
  obtain ⟨status, root', htick⟩ := tick_tree env root phase (s.world.deliver msgs)
  exact ⟨root', by rw [State.iterate, h, htick]⟩

/-- From a phase, the tree is in a phase after every iteration. -/
theorem State.run_tree (env : Env) (h : s.tree = phase.tree root)
    (inputs : List (List SerialReceiveData)) :
    ∃ root' phase', (s.run env inputs).2.tree = Phase.tree root' phase' := by
  induction inputs generalizing s root phase with
  | nil => exact ⟨root, phase, h⟩
  | cons msgs inputs ih =>
    obtain ⟨root', hiter⟩ := State.iterate_tree env h msgs
    exact ih (congrArg (fun r => r.2.tree) hiter)

/-- An iteration is a delivery, and then the visits of the leaves. -/
theorem State.iterate_run (env : Env) (s : State) (msgs : List SerialReceiveData) :
    Transition.Run (LeafStep (sem env)) (s.world.deliver msgs) (s.iterate env msgs).1
      (s.iterate env msgs).2.world :=
  tickOnce_run (sem env) s.tree _

theorem State.run_append (env : Env) (s : State) (inputs inputs' : List (List SerialReceiveData)) :
    s.run env (inputs ++ inputs') =
      ((s.run env inputs).1 ++ ((s.run env inputs).2.run env inputs').1,
        ((s.run env inputs).2.run env inputs').2) := by
  induction inputs generalizing s with
  | nil => rfl
  | cons msgs inputs ih => simp only [List.cons_append, State.run, ih, List.append_assoc]

/-- A delivery keeps the last message. -/
theorem World.deliver_eq (w : World) (msgs : List SerialReceiveData) :
    w.deliver msgs =
      { w with writer := (msgs.getLast?.map WriteToBlackboard.callback).getD w.writer } := by
  induction msgs generalizing w with
  | nil => rfl
  | cons msg msgs ih =>
    have hcons : w.deliver (msg :: msgs) = World.deliver { w with writer := .callback msg } msgs :=
      rfl
    rw [hcons, ih]
    cases hlast : msgs.getLast? <;> simp [List.getLast?_cons, hlast]

end Sentry.Behavior
