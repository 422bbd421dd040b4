import Sentry.Behavior.Tactical

/-!
# Low health pre-empts the patrol

What the ticks of the tactical tree publish on `/goal_pose`, and which of its branches
is running, as the health in the latest message demands: nothing before the first
message, the home position and no patrol while the health is low, waypoints of the last
successful load and no wait at home otherwise (`preempt`).

What a tick does to the world is done by the leaves it visits (`State.iterate_run`), so
what is published and loaded is read off the visits (`published`, `loaded`).
-/

namespace Sentry.Behavior

open BehaviorTree (Status Node)
open BehaviorTree.Node
open Sentry.Talker (SerialReceiveData)
open Transition (Run)

/-! ## Visits -/

/-- The pose that a visit publishes. -/
def published (env : Env) : Leaf × World → Option PoseStamped
  | (.pubNav2Goal branch, w) => if w.throttled env branch then none else w.setMessage branch
  | _ => none

/-- The waypoints that a visit loads. -/
def loaded (env : Env) : Leaf × World → Option (List PoseStamped)
  | (.loadWaypoints, w) => (loadWaypointsFromCSV env.stod
      (env.file w.fileReads w.board.frontPatrolCsv) "map" true).map Prod.fst
  | _ => none

/-- The waypoints of the last successful load. -/
def latestRoute (env : Env) (visits : List (Leaf × World)) : Option (List PoseStamped) :=
  (visits.filterMap (loaded env)).getLast?

/-- What a visit does: it may publish a pose, load waypoints, and write the health of the last
    message, and it leaves the message, the home position and the name of the file alone. -/
structure Effect (env : Env) (visit : Leaf × World) (w : World) : Prop where
  writer : w.writer = visit.2.writer
  homePosition : w.board.homePosition = visit.2.board.homePosition
  frontPatrolCsv : w.board.frontPatrolCsv = visit.2.board.frontPatrolCsv
  hp : w.board.hp = visit.2.board.hp ∨ w.board.hp = visit.2.writer.hp
  goalPoses : w.goalPoses = visit.2.goalPoses ++ (published env visit).toList
  frontWaypoints : w.board.frontWaypoints = (loaded env visit).or visit.2.board.frontWaypoints

section

variable {env : Env} {w w' : World} {visits : List (Leaf × World)}

/-- The effect of a leaf that neither publishes a pose nor loads waypoints. -/
theorem Effect.quiet {visit : Leaf × World} (hpublished : published env visit = none)
    (hloaded : loaded env visit = none) (hwriter : w.writer = visit.2.writer)
    (hgoalPoses : w.goalPoses = visit.2.goalPoses)
    (hhome : w.board.homePosition = visit.2.board.homePosition)
    (hcsv : w.board.frontPatrolCsv = visit.2.board.frontPatrolCsv)
    (hhp : w.board.hp = visit.2.board.hp)
    (hwaypoints : w.board.frontWaypoints = visit.2.board.frontWaypoints) :
    Effect env visit w := by
  refine ⟨hwriter, hhome, hcsv, .inl hhp, ?_, ?_⟩
  · rw [hpublished, hgoalPoses, Option.toList_none, List.append_nil]
  · rw [hloaded, hwaypoints, Option.none_or]

/-- Ticking a leaf has the effect of the visit. -/
theorem tick_effect (env : Env) (l : Leaf) (status : Status) (w : World) :
    Effect env (l, w) ((sem env l).tick status w).2 := by
  cases l with
  | writeToBlackboard =>
    simp only [sem, BehaviorTree.Leaf.sync, World.writeToBlackboard]
    split
    · exact .quiet rfl rfl rfl rfl rfl rfl rfl rfl
    · exact ⟨rfl, rfl, rfl, .inr rfl, by simp [published], rfl⟩
  | hpCondition =>
    simp only [sem, BehaviorTree.Leaf.sync, World.hpCondition]
    split <;> exact .quiet rfl rfl rfl rfl rfl rfl rfl rfl
  | setSentryMode branch => exact .quiet rfl rfl rfl rfl rfl rfl rfl rfl
  | announceBehavior branch => exact .quiet rfl rfl rfl rfl rfl rfl rfl rfl
  | pubNav2Goal branch =>
    simp only [sem, BehaviorTree.Leaf.sync, World.pubNav2Goal]
    split
    next h => exact .quiet (by simp [published, h]) rfl rfl rfl rfl rfl rfl rfl
    next h =>
      split
      next hmsg => exact .quiet (by simp [published, hmsg]) rfl rfl rfl rfl rfl rfl rfl
      next msg hmsg => exact ⟨rfl, rfl, rfl, .inl rfl, by simp [published, h, hmsg], rfl⟩
  | waitUntilReached branch =>
    cases status with
    | idle =>
      simp only [sem, BehaviorTree.Leaf.stateful, World.startWait]
      split <;> exact .quiet rfl rfl rfl rfl rfl rfl rfl rfl
    | running | success | failure => exact .quiet rfl rfl rfl rfl rfl rfl rfl rfl
  | loadWaypoints =>
    simp only [sem, BehaviorTree.Leaf.sync, World.loadWaypoints]
    split
    next h => exact .quiet rfl (by simp [loaded, h]) rfl rfl rfl rfl rfl rfl
    next h => exact ⟨rfl, rfl, rfl, .inl rfl, by simp [published], by simp [loaded, h]⟩
  | getCurrentWaypoint =>
    simp only [sem, BehaviorTree.Leaf.sync, World.getCurrentWaypoint]
    split
    · split
      · exact .quiet rfl rfl rfl rfl rfl rfl rfl rfl
      · split <;> exact .quiet rfl rfl rfl rfl rfl rfl rfl rfl
    · exact .quiet rfl rfl rfl rfl rfl rfl rfl rfl
  | waitDuration =>
    cases status with
    | idle =>
      simp only [sem, BehaviorTree.Leaf.stateful, World.startDuration]
      split <;> exact .quiet rfl rfl rfl rfl rfl rfl rfl rfl
    | running | success | failure => exact .quiet rfl rfl rfl rfl rfl rfl rfl rfl
  | nextWaypoint =>
    simp only [sem, BehaviorTree.Leaf.sync, World.nextWaypoint]
    split <;> exact .quiet rfl rfl rfl rfl rfl rfl rfl rfl

/-- The visits of leaves one after the other publish their poses. -/
theorem run_goalPoses (h : Run (LeafStep (sem env)) w visits w') :
    w'.goalPoses = w.goalPoses ++ visits.filterMap (published env) := by
  induction h with
  | nil w => simp
  | cons hstep _ ih =>
    obtain ⟨l, status, rfl, rfl⟩ := hstep
    rw [ih, (tick_effect env l status _).goalPoses, List.filterMap_append]
    cases hmsg : published env (l, _) <;> simp [hmsg]

theorem latestRoute_append (visits visits' : List (Leaf × World)) :
    latestRoute env (visits ++ visits') =
      (latestRoute env visits').or (latestRoute env visits) := by
  rw [latestRoute, List.filterMap_append, List.getLast?_append]
  rfl

theorem latestRoute_singleton (visit : Leaf × World) :
    latestRoute env [visit] = loaded env visit := by
  cases h : loaded env visit <;> simp [latestRoute, h]

/-- After some visits, the waypoints on the blackboard are those of the last successful
    load. -/
theorem run_frontWaypoints (h : Run (LeafStep (sem env)) w visits w') :
    w'.board.frontWaypoints = (latestRoute env visits).or w.board.frontWaypoints := by
  induction h with
  | nil w => rfl
  | cons hstep _ ih =>
    obtain ⟨l, status, rfl, rfl⟩ := hstep
    rw [ih, (tick_effect env l status _).frontWaypoints, latestRoute_append, latestRoute_singleton,
      Option.or_assoc]

/-- What the visits leave alone stays, in all the worlds they visit. -/
theorem run_frame (h : Run (LeafStep (sem env)) w visits w') :
    (w'.writer = w.writer ∧ w'.board.frontPatrolCsv = w.board.frontPatrolCsv ∧
      w'.board.homePosition = w.board.homePosition) ∧
    ∀ visit ∈ visits, visit.2.board.homePosition = w.board.homePosition := by
  induction h with
  | nil w => exact ⟨⟨rfl, rfl, rfl⟩, by simp⟩
  | cons hstep _ ih =>
    obtain ⟨l, status, rfl, rfl⟩ := hstep
    obtain ⟨⟨hwriter, hcsv, hhome⟩, hvisits⟩ := ih
    have heffect := tick_effect env l status
    refine ⟨⟨hwriter.trans (heffect _).writer, hcsv.trans (heffect _).frontPatrolCsv,
      hhome.trans (heffect _).homePosition⟩, ?_⟩
    rintro visit hvisit
    rcases List.mem_append.1 hvisit with hvisit | hvisit
    · rw [List.mem_singleton.1 hvisit]
    · exact (hvisits visit hvisit).trans (heffect _).homePosition

end

/-! ## Branches -/

/-- A branch of the tree. -/
def branchOf (branch : Branch) : Node Leaf → Option (Node Leaf)
  | .keepRunning (.reactive _ [_, home, patrol] _) _ =>
    match branch with
    | .home => some home
    | .patrol => some patrol
  | _ => none

/-- No node of a branch is running. -/
def Still (branch : Branch) (tree : Node Leaf) : Prop :=
  ∃ node ∈ branchOf branch tree, .running ∉ node.statuses

instance (branch : Branch) (tree : Node Leaf) : Decidable (Still branch tree) :=
  decidable_of_iff ((branchOf branch tree).any fun node => decide (.running ∉ node.statuses)) (by
    cases h : branchOf branch tree <;> simp [Still, h])

theorem still_patrol (root : Status) (phase : Phase) :
    Still .patrol (phase.tree root) ↔ phase = .idle ∨ phase = .home := by
  cases phase <;>
    simp [Still, branchOf, Phase.tree, treeWith, patrolBranch, patrolLooping, lapNode, lapDriving,
      lapPausing, driveNode]

theorem still_home (root : Status) (phase : Phase) :
    Still .home (phase.tree root) ↔ phase ≠ .home := by
  cases phase <;>
    simp [Still, branchOf, Phase.tree, treeWith, homeBranch, homeWaiting]

/-! ## Moves -/

section

variable {env : Env} {w : World} {phase : Phase} {visit : Leaf × World} {msg : PoseStamped}

/-- A published pose is that of the goal of its branch. -/
theorem pose_of_published {branch : Branch} (h : msg ∈ published env (.pubNav2Goal branch, w)) :
    ∃ goal ∈ w.goalPose branch, msg.pose = goal.pose := by
  simp only [published] at h
  split at h
  · simp at h
  · obtain ⟨goal, hgoal, rfl⟩ := Option.map_eq_some_iff.1 h
    refine ⟨goal, hgoal, ?_⟩
    split <;> rfl

/-- Outside of the patrol, what is published is the home position. -/
theorem home_of_published (hvisit : visit.1 ≠ .pubNav2Goal .patrol)
    (h : msg ∈ published env visit) : msg.pose = visit.2.board.homePosition.pose := by
  obtain ⟨l, w⟩ := visit
  cases l with
  | pubNav2Goal branch =>
    cases branch with
    | home =>
      obtain ⟨goal, hgoal, hpose⟩ := pose_of_published h
      rw [hpose, ← Option.some.inj hgoal]
    | patrol => exact absurd rfl hvisit
  | _ => simp [published] at h

/-- The branch for low health does not publish waypoints. -/
theorem homeNodeMove_visits (hvisit : visit ∈ (homeNodeMove env w phase).visits) :
    visit.1 ≠ .pubNav2Goal .patrol := by
  revert visit
  simp only [homeNodeMove]
  split <;> simp [homeMove, goHomeMove]

/-- All that a move publishes are waypoints on the blackboard after it. -/
def Move.Patrols (env : Env) (m : Move) : Prop :=
  ∀ visit ∈ m.visits, ∀ msg ∈ published env visit,
    ∃ waypoints ∈ m.world.board.frontWaypoints, ∃ wp ∈ waypoints, msg.pose = wp.pose

/-- Visits that publish nothing do not matter. -/
theorem Move.Patrols.after {m : Move} (h : m.Patrols env) {visits : List (Leaf × World)}
    (hvisits : ∀ visit ∈ visits, published env visit = none) : (m.after visits).Patrols env := by
  intro visit hvisit msg hmsg
  rcases List.mem_append.1 hvisit with hvisit | hvisit
  · rw [hvisits visit hvisit] at hmsg
    simp at hmsg
  · exact h visit hvisit msg hmsg

theorem patrols_of_quiet {m : Move} (h : ∀ visit ∈ m.visits, published env visit = none) :
    m.Patrols env := by
  intro visit hvisit msg hmsg
  rw [h visit hvisit] at hmsg
  simp at hmsg

/-- The waypoint that is taken is one of those on the blackboard. -/
theorem getCurrentWaypoint_mem (h : w.getCurrentWaypoint.1 = .success) :
    ∃ waypoints ∈ w.getCurrentWaypoint.2.board.frontWaypoints, ∃ goal ∈ waypoints,
      w.getCurrentWaypoint.2.goalPose .patrol = some goal := by
  simp only [World.getCurrentWaypoint] at h ⊢
  split
  next waypoints idx hwaypoints hidx =>
    split
    · simp_all
    · split
      · simp_all
      next goal hgoal => exact ⟨waypoints, hwaypoints, goal, List.mem_of_getElem? hgoal, rfl⟩
  · simp_all

/-- Setting out for a waypoint publishes the one that was taken. -/
theorem patrols_lapMove (w : World) : (lapMove env w).Patrols env := by
  simp only [lapMove]
  split
  next hgoal =>
    obtain ⟨waypoints, hwaypoints, goal, hmem, hgoal⟩ := getCurrentWaypoint_mem hgoal
    have hpub := (tick_effect env (.pubNav2Goal .patrol) .idle
      w.getCurrentWaypoint.2).frontWaypoints
    have hwait := (tick_effect env (.waitUntilReached .patrol) .idle
      (w.getCurrentWaypoint.2.pubNav2Goal env .patrol).2).frontWaypoints
    have hworld : ((w.getCurrentWaypoint.2.pubNav2Goal env .patrol).2.startWait
        .patrol).2.board.frontWaypoints = some waypoints := hwait.trans (hpub.trans hwaypoints)
    intro visit hvisit msg hmsg
    obtain rfl | rfl | rfl : visit = _ ∨ visit = _ ∨ visit = _ := by simpa using hvisit
    · simp [published] at hmsg
    · obtain ⟨goal', hgoal', hpose⟩ := pose_of_published hmsg
      rw [hgoal, Option.mem_some_iff] at hgoal'
      exact ⟨waypoints, hworld, goal, hmem, hgoal' ▸ hpose⟩
    · simp [published] at hmsg
  · exact patrols_of_quiet (by simp [published])

theorem patrols_nextMove (w : World) : (nextMove w).Patrols env :=
  patrols_of_quiet (by simp [nextMove, published])

theorem patrols_pauseMove (status : Status) (w : World) :
    (pauseMove env status w).Patrols env := by
  simp only [pauseMove]
  split
  · exact patrols_of_quiet (by simp [published])
  · exact (patrols_nextMove _).after (by simp [published])

theorem patrols_driveMove (w : World) : (driveMove env w).Patrols env := by
  simp only [driveMove]
  split
  · exact (patrols_pauseMove _ _).after (by simp [published])
  · exact patrols_of_quiet (by simp [published])

theorem patrols_patrolMove (w : World) : (patrolMove env w).Patrols env := by
  simp only [patrolMove]
  split
  · exact (patrols_lapMove _).after (by simp [published])
  · exact patrols_of_quiet (by simp [published])

/-- The patrol branch publishes waypoints on the blackboard. -/
theorem patrols_patrolNodeMove (phase : Phase) (w : World) :
    (patrolNodeMove env w phase).Patrols env := by
  cases phase with
  | idle | home => exact patrols_patrolMove w
  | drive => exact patrols_driveMove w
  | pause => exact patrols_pauseMove .running w
  | lap => exact patrols_lapMove w

end

/-! ## Ticks -/

/-- The last message delivered. -/
def latest (inputs : List (List SerialReceiveData)) : Option SerialReceiveData :=
  inputs.flatten.getLast?

/-- What the branches and the publications of a tick are to be, for the last message
    delivered: at the end of the tick, the branch that is not in charge is still, and the
    poses published in the tick are those of the branch that is. -/
def Obeys (homePosition : PoseStamped) (msg : SerialReceiveData) (tree : Node Leaf)
    (poses : List PoseStamped) (route : Option (List PoseStamped)) : Prop :=
  if (msg.hp.toNat : ℚ) < 300 then
    Still .patrol tree ∧ ∀ pose ∈ poses, pose.pose = homePosition.pose
  else Still .home tree ∧ ∀ pose ∈ poses, ∃ waypoints ∈ route, ∃ wp ∈ waypoints, pose.pose = wp.pose

section

variable {env : Env} {w : World} {phase : Phase} {s : State} {root : Status}

@[simp] theorem hpCondition_world (w : World) : w.hpCondition.2 = w := by
  rw [World.hpCondition]
  split <;> rfl

/-- Without a message, a move comes to nothing. -/
theorem move_noMessage (env : Env) (phase : Phase) (h : w.writer.isReadInterface = false) :
    move env phase w = ⟨[(.writeToBlackboard, w)], .idle, w⟩ := by
  simp [move, World.writeToBlackboard, h]

/-- With a message, the branch is chosen by the health in it. -/
theorem move_message (env : Env) (phase : Phase) (h : w.writer.isReadInterface = true) :
    move env phase w =
      (if w.writer.hp < 300 then homeNodeMove env w.writeToBlackboard.2 phase
        else patrolNodeMove env w.writeToBlackboard.2 phase).after
        [(.writeToBlackboard, w), (.hpCondition, w.writeToBlackboard.2)] := by
  have hstatus : w.writeToBlackboard.1 = .success := by simp [World.writeToBlackboard, h]
  have hhp : w.writeToBlackboard.2.board.hp = w.writer.hp := by simp [World.writeToBlackboard, h]
  simp only [move, hstatus, if_true, hpCondition_world]
  congr 1
  by_cases hlow : w.writer.hp < 300 <;> simp [World.hpCondition, hpThreshold, hhp, hlow]

/-- In a phase, a tick obeys the message. -/
theorem obeys_iterate (env : Env) {msg : SerialReceiveData} {msgs : List SerialReceiveData}
    (htree : s.tree = phase.tree root)
    (hmsg : (s.world.deliver msgs).writer = .callback msg) :
    Obeys s.world.board.homePosition msg (s.iterate env msgs).2.tree
      ((s.iterate env msgs).1.filterMap (published env))
      (s.iterate env msgs).2.world.board.frontWaypoints := by
  obtain ⟨root', hiter⟩ := State.iterate_tree env htree msgs
  have hframe := (run_frame (s.iterate_run env msgs)).2
  have hhome : (s.world.deliver msgs).board.homePosition = s.world.board.homePosition := by
    rw [World.deliver_eq]
  have hmove := move_message env phase (w := s.world.deliver msgs)
    (by rw [hmsg]; rfl)
  have hhp : (s.world.deliver msgs).writer.hp = msg.hp.toNat := by rw [hmsg]; rfl
  rw [hhp] at hmove
  rw [hiter] at hframe ⊢
  rw [Obeys]
  split
  next hlow =>
    rw [if_pos hlow] at hmove
    refine ⟨(still_patrol _ _).2 ?_, fun pose hpose => ?_⟩
    · rw [hmove]
      exact homeNodeMove_phase phase _
    · -- only the branch for low health is ticked, and no leaf changes the home position
      obtain ⟨visit, hvisit, hpublished⟩ := List.mem_filterMap.1 hpose
      have hleaf : visit.1 ≠ .pubNav2Goal .patrol := by
        rw [hmove] at hvisit
        rcases List.mem_append.1 hvisit with hread | hrest
        · obtain rfl | rfl : visit = _ ∨ visit = _ := by simpa using hread
          · simp
          · simp
        · exact homeNodeMove_visits hrest
      rw [home_of_published hleaf hpublished, hframe visit hvisit, hhome]
  next hhigh =>
    rw [if_neg hhigh] at hmove
    refine ⟨(still_home _ _).2 ?_, fun pose hpose => ?_⟩
    · rw [hmove]
      exact patrolNodeMove_phase phase _
    · obtain ⟨visit, hvisit, hpublished⟩ := List.mem_filterMap.1 hpose
      have hpatrols : (move env phase (s.world.deliver msgs)).Patrols env := by
        rw [hmove]
        exact (patrols_patrolNodeMove phase _).after (by simp [published])
      exact hpatrols visit hvisit pose hpublished

/-- After a run, the world is that of the last message and of the last successful load. -/
theorem State.run_world (env : Env) (s : State) (inputs : List (List SerialReceiveData)) :
    (s.run env inputs).2.world.writer =
        ((latest inputs).map WriteToBlackboard.callback).getD s.world.writer ∧
      (s.run env inputs).2.world.board.homePosition = s.world.board.homePosition ∧
      (s.run env inputs).2.world.board.frontPatrolCsv = s.world.board.frontPatrolCsv ∧
      (s.run env inputs).2.world.board.frontWaypoints =
        (latestRoute env (s.run env inputs).1).or s.world.board.frontWaypoints := by
  induction inputs generalizing s with
  | nil => exact ⟨rfl, rfl, rfl, rfl⟩
  | cons msgs inputs ih =>
    obtain ⟨hwriter, hhome, hcsv, hwaypoints⟩ := ih (s.iterate env msgs).2
    obtain ⟨⟨hwriter', hcsv', hhome'⟩, -⟩ := run_frame (s.iterate_run env msgs)
    have hwaypoints' := run_frontWaypoints (s.iterate_run env msgs)
    rw [World.deliver_eq] at hwriter' hcsv' hhome' hwaypoints'
    refine ⟨?_, hhome.trans hhome', hcsv.trans hcsv', ?_⟩
    · rw [State.run, hwriter, hwriter', latest, latest, List.flatten_cons, List.getLast?_append]
      cases inputs.flatten.getLast? <;> rfl
    · rw [State.run, hwaypoints, hwaypoints', latestRoute_append, Option.or_assoc]

/-- Without a message, nothing is published. -/
theorem State.run_noMessage (env : Env) {inputs : List (List SerialReceiveData)}
    (htree : s.tree = phase.tree root) (hread : s.world.writer.isReadInterface = false)
    (h : latest inputs = none) : (s.run env inputs).2.world.goalPoses = s.world.goalPoses := by
  induction inputs generalizing s root phase with
  | nil => rfl
  | cons msgs inputs ih =>
    obtain ⟨hinputs, rfl⟩ : (∀ msgs ∈ inputs, msgs = []) ∧ msgs = [] := by simpa [latest] using h
    -- the tick ends at `WriteToBlackboard`, and leaves the world as it is
    obtain ⟨root', hiter⟩ := State.iterate_tree env htree []
    have hmove : move env phase (s.world.deliver []) = ⟨[(.writeToBlackboard, s.world)], .idle,
        s.world⟩ := move_noMessage env phase hread
    rw [hmove] at hiter
    rw [State.run, hiter]
    exact ih rfl hread (by simpa [latest] using hinputs)

end

variable (env : Env) (homePosition : PoseStamped) (zoneModeTopic frontPatrolCsv : String)
  {inputs : List (List SerialReceiveData)} {msg : SerialReceiveData}

/-- The tree is in a phase after every iteration. -/
theorem init_tree (inputs : List (List SerialReceiveData)) :
    ∃ root phase, ((State.init homePosition zoneModeTopic frontPatrolCsv).run env inputs).2.tree =
      Phase.tree root phase :=
  State.run_tree env (State.tree_init homePosition zoneModeTopic frontPatrolCsv) inputs

/-- In the next iteration, the message delivered last is the last one of all. -/
theorem init_deliver {msgs : List SerialReceiveData}
    (hmsg : latest (inputs ++ [msgs]) = some msg) :
    (((State.init homePosition zoneModeTopic frontPatrolCsv).run env inputs).2.world.deliver
      msgs).writer = .callback msg := by
  have hwriter :=
    (State.run_world env (State.init homePosition zoneModeTopic frontPatrolCsv) inputs).1
  have hor : msgs.getLast?.or (latest inputs) = some msg := by
    rw [← hmsg, latest, latest, List.flatten_append, List.flatten_singleton, List.getLast?_append]
  rw [World.deliver_eq]
  cases hlast : msgs.getLast? with
  | some msg' => simp_all
  | none => simp_all

/-- At the end of every tick: before the first message, nothing has been published on
    `/goal_pose`. After it, while the health in the last message is low, the patrol branch
    is still, and all that the tick has published is the home position; otherwise the
    branch for low health is still, and all that the tick has published are waypoints of the
    last successful load. -/
theorem preempt (inputs : List (List SerialReceiveData)) (msgs : List SerialReceiveData) :
    let before := (State.init homePosition zoneModeTopic frontPatrolCsv).run env inputs
    let after := before.2.iterate env msgs
    ∃ poses, after.2.world.goalPoses = before.2.world.goalPoses ++ poses ∧
      match latest (inputs ++ [msgs]) with
      | none => after.2.world.goalPoses = []
      | some msg =>
        Obeys homePosition msg after.2.tree poses (latestRoute env (before.1 ++ after.1)) := by
  intro before after
  have hposes := run_goalPoses (before.2.iterate_run env msgs)
  have hwaypoints := run_frontWaypoints (before.2.iterate_run env msgs)
  obtain ⟨-, hhome, -, hroute⟩ :=
    State.run_world env (State.init homePosition zoneModeTopic frontPatrolCsv) inputs
  rw [World.deliver_eq] at hposes hwaypoints
  refine ⟨_, hposes, ?_⟩
  cases hmsg : latest (inputs ++ [msgs]) with
  | none =>
    have hlast : after.2 =
        ((State.init homePosition zoneModeTopic frontPatrolCsv).run env (inputs ++ [msgs])).2 := by
      rw [State.run_append]
      rfl
    rw [hlast]
    exact State.run_noMessage env (State.tree_init homePosition zoneModeTopic frontPatrolCsv) rfl
      hmsg
  | some msg =>
    obtain ⟨root, phase, htree⟩ := init_tree env homePosition zoneModeTopic frontPatrolCsv inputs
    have hobeys := obeys_iterate env htree
      (init_deliver env homePosition zoneModeTopic frontPatrolCsv hmsg)
    have hloaded : after.2.world.board.frontWaypoints =
        latestRoute env (before.1 ++ after.1) := by
      rw [latestRoute_append, hwaypoints]
      exact congrArg _ (hroute.trans Option.or_none)
    rw [hhome, hloaded] at hobeys
    exact hobeys

end Sentry.Behavior
