import Sentry.Behavior.Tactical

/-!
# The goal of the robot

The robot drives to the last pose published on `/goal_pose`, the tree waits until it
has reached the goal of a `WaitUntilReached`. The two agree as long as the throttle of
`PubNav2Goal` suppresses no publication that was needed (`OnTime`), and they disagree
from the first one that was (`driving_iff`): the tree goes on to its wait, and does not
publish again before the wait is over.
-/

namespace Sentry.Behavior

open BehaviorTree (Status Node)
open Sentry.Talker (SerialReceiveData)

/-! ## Agreement -/

namespace World

/-- The last pose published is that of the goal of the node `WaitUntilReached`. -/
def Pursues (w : World) (branch : Branch) : Prop :=
  ∃ msg ∈ w.goalPoses.getLast?, msg.pose = (w.waits branch).goal.pose

/-- The last pose published is that of the `goal_pose` of the branch. -/
def Faces (w : World) (branch : Branch) : Prop :=
  ∃ msg ∈ w.goalPoses.getLast?, ∃ goal ∈ w.goalPose branch, msg.pose = goal.pose

end World

/-- A node `WaitUntilReached` is running. -/
def Waiting (tree : Node Leaf) (branch : Branch) : Prop :=
  (.waitUntilReached branch, .running) ∈ tree.leaves

/-- The robot drives to the goal the tree waits for. -/
def State.Driving (s : State) : Prop :=
  ∀ branch, Waiting s.tree branch → s.world.Pursues branch

/-- If a `PubNav2Goal` is throttled, its goal was the last one published. -/
def OnTime (env : Env) : Leaf × World → Prop
  | (.pubNav2Goal branch, w) => w.throttled env branch → w.Faces branch
  | _ => True

/-- The branch whose `WaitUntilReached` is running in a phase. -/
def Phase.target : Phase → Option Branch
  | .home => some .home
  | .drive => some .patrol
  | _ => none

theorem waiting_tree (root : Status) (phase : Phase) (branch : Branch) :
    Waiting (phase.tree root) branch ↔ branch ∈ phase.target := by
  cases phase <;> cases branch <;>
    simp [Waiting, Phase.tree, treeWith, Phase.target, writeNode, homeBranch, homeWaiting,
      patrolBranch, patrolLooping, lapNode, lapDriving, lapPausing, driveNode,
      BehaviorTree.Node.leaves.leavesOf]

section

variable {env : Env} {w : World} {branch : Branch} {goal : PoseStamped}

/-! ## Publishing and waiting -/

/-- A throttled tick publishes nothing. -/
theorem goalPoses_of_throttled (h : w.throttled env branch) :
    (w.pubNav2Goal env branch).2.goalPoses = w.goalPoses := by
  simp [World.pubNav2Goal, h]

/-- A tick that is not throttled publishes the goal. -/
theorem goalPoses_of_not_throttled (h : ¬w.throttled env branch)
    (hgoal : w.goalPose branch = some goal) :
    ∃ msg, (w.pubNav2Goal env branch).2.goalPoses = w.goalPoses ++ [msg] ∧
      msg.pose = goal.pose := by
  refine ⟨if goal.frameId = "" then { goal with frameId := "map" } else goal, ?_, ?_⟩
  · simp [World.pubNav2Goal, World.setMessage, h, hgoal]
  · split <;> rfl

/-- A wait that begins is for the goal of its branch. -/
theorem pursues_startWait (hgoal : w.goalPose branch = some goal) :
    (w.startWait branch).2.Pursues branch ↔ w.Faces branch := by
  simp [World.Pursues, World.Faces, World.startWait, hgoal]

/-- After a publication, the wait begins for the goal that was published last, unless
    the publication was throttled when it was needed. -/
theorem pursues_pubNav2Goal (env : Env) (hgoal : w.goalPose branch = some goal) :
    ((w.pubNav2Goal env branch).2.startWait branch).2.Pursues branch ↔
      OnTime env (.pubNav2Goal branch, w) := by
  rw [pursues_startWait (by rw [World.pubNav2Goal_goalPose, hgoal])]
  by_cases h : w.throttled env branch
  · simp [OnTime, World.Faces, goalPoses_of_throttled h, h]
  · obtain ⟨msg, hposes, hmsg⟩ := goalPoses_of_not_throttled h hgoal
    simp [OnTime, World.Faces, hposes, hgoal, hmsg, h]

/-! ## Moves -/

/-- A move comes to the right goal just when all its publications are on time. -/
def Move.Right (env : Env) (m : Move) : Prop :=
  (∀ branch ∈ m.phase.target, m.world.Pursues branch) ↔ ∀ visit ∈ m.visits, OnTime env visit

/-- Visits that are on time anyway do not matter. -/
theorem Move.Right.after {m : Move} (h : m.Right env) {visits : List (Leaf × World)}
    (hvisits : ∀ visit ∈ visits, OnTime env visit) : (m.after visits).Right env := by
  have hall : (∀ visit ∈ visits ++ m.visits, OnTime env visit) ↔
      ∀ visit ∈ m.visits, OnTime env visit := by
    rw [List.forall_mem_append]
    exact and_iff_right hvisits
  exact h.trans hall.symm

/-- A move without a publication keeps the goal. -/
theorem right_of_pursues {m : Move} (hworld : ∀ branch ∈ m.phase.target, m.world.Pursues branch)
    (hvisits : ∀ visit ∈ m.visits, OnTime env visit) : m.Right env :=
  iff_of_true hworld hvisits

theorem right_nextMove (w : World) : (nextMove w).Right env := by
  refine right_of_pursues ?_ (by simp [nextMove, OnTime])
  simp only [nextMove]
  split <;> simp [Phase.target]

theorem right_pauseMove (status : Status) (w : World) : (pauseMove env status w).Right env := by
  simp only [pauseMove]
  split
  · exact right_of_pursues (by simp [Phase.target]) (by simp [OnTime])
  · exact (right_nextMove _).after (by simp [OnTime])

/-- On the way to a waypoint, the goal stays. -/
theorem right_driveMove (h : w.Pursues .patrol) : (driveMove env w).Right env := by
  simp only [driveMove]
  split
  · exact (right_pauseMove _ _).after (by simp [OnTime])
  · refine right_of_pursues ?_ (by simp [OnTime])
    rintro _ ⟨⟩
    exact h

/-- Setting out for a waypoint, the goal is right if its publication is on time. -/
theorem right_lapMove (w : World) : (lapMove env w).Right env := by
  simp only [lapMove]
  split
  · next h =>
    obtain ⟨goal, hgoal⟩ := World.getCurrentWaypoint_goalPose h
    simpa [Move.Right, Phase.target, OnTime] using pursues_pubNav2Goal env hgoal
  · exact right_of_pursues (by simp [Phase.target]) (by simp [OnTime])

theorem right_patrolMove (w : World) : (patrolMove env w).Right env := by
  simp only [patrolMove]
  split
  · exact (right_lapMove _).after (by simp [OnTime])
  · exact right_of_pursues (by simp [Phase.target]) (by simp [OnTime])

/-- Setting out for home, the goal is right if its publication is on time. -/
theorem right_goHomeMove (w : World) : (goHomeMove env w).Right env := by
  have h : ∀ w : World, ((w.pubNav2Goal env .home).2.startWait .home).2.Pursues .home ↔
      OnTime env (.pubNav2Goal .home, w) := fun w => pursues_pubNav2Goal env rfl
  simpa [Move.Right, goHomeMove, Phase.target, OnTime] using h _

/-- On the way home, the goal stays. -/
theorem right_homeMove (h : w.Pursues .home) : (homeMove env w).Right env := by
  refine right_of_pursues ?_ (by simp [homeMove, OnTime])
  simp only [homeMove]
  split
  · simp [Phase.target]
  · rintro _ ⟨⟩
    exact h

theorem right_homeNodeMove {phase : Phase} (h : ∀ branch ∈ phase.target, w.Pursues branch) :
    (homeNodeMove env w phase).Right env := by
  simp only [homeNodeMove]
  split
  · next hphase => exact right_homeMove (h .home (by rw [hphase]; rfl))
  · exact right_goHomeMove w

theorem right_patrolNodeMove {phase : Phase} (h : ∀ branch ∈ phase.target, w.Pursues branch) :
    (patrolNodeMove env w phase).Right env := by
  cases phase with
  | idle | home => exact right_patrolMove w
  | drive => exact right_driveMove (h .patrol rfl)
  | pause => exact right_pauseMove .running w
  | lap => exact right_lapMove w

@[simp] theorem pursues_writeToBlackboard :
    w.writeToBlackboard.2.Pursues branch ↔ w.Pursues branch := by
  rw [World.writeToBlackboard]
  split <;> rfl

@[simp] theorem pursues_hpCondition : w.hpCondition.2.Pursues branch ↔ w.Pursues branch := by
  rw [World.hpCondition]
  split <;> rfl

/-- From a tree with the right goal, a tick comes to the right goal just when all its
    publications are on time. -/
theorem right_move {phase : Phase} (h : ∀ branch ∈ phase.target, w.Pursues branch) :
    (move env phase w).Right env := by
  have hread : ∀ branch ∈ phase.target, w.writeToBlackboard.2.hpCondition.2.Pursues branch := by
    simpa using h
  simp only [move]
  split
  · refine Move.Right.after ?_ (by simp [OnTime])
    split
    · exact right_homeNodeMove hread
    · exact right_patrolNodeMove hread
  · exact right_of_pursues (by simp [Phase.target]) (by simp [OnTime])

end

/-! ## Runs -/

variable {env : Env} {s : State} {root : Status} {phase : Phase}

@[simp] theorem pursues_deliver (w : World) (msgs : List SerialReceiveData) (branch : Branch) :
    (w.deliver msgs).Pursues branch ↔ w.Pursues branch := by
  induction msgs generalizing w with
  | nil => rfl
  | cons msg msgs ih => exact ih _

/-- In a phase, the goal is right if it is the one of the phase. -/
theorem driving_iff_target (htree : s.tree = phase.tree root) :
    s.Driving ↔ ∀ branch ∈ phase.target, s.world.Pursues branch := by
  simp only [State.Driving, htree, waiting_tree]

/-- An iteration of the main loop, in a phase with the right goal. -/
theorem driving_iterate (env : Env) (htree : s.tree = phase.tree root) (hs : s.Driving)
    (msgs : List SerialReceiveData) :
    (∃ root' phase', (s.iterate env msgs).2.tree = Phase.tree root' phase') ∧
      ((s.iterate env msgs).2.Driving ↔ ∀ visit ∈ (s.iterate env msgs).1, OnTime env visit) := by
  obtain ⟨root', hiter⟩ := State.iterate_tree env htree msgs
  have hright : (move env phase (s.world.deliver msgs)).Right env :=
    right_move (by simpa using (driving_iff_target htree).1 hs)
  rw [hiter]
  exact ⟨⟨_, _, rfl⟩, (driving_iff_target rfl).trans hright⟩

/-- From a phase with the right goal, the goal is right after every iteration just when
    all the publications are on time. -/
theorem driving_run (htree : s.tree = phase.tree root) (hs : s.Driving)
    (inputs : List (List SerialReceiveData)) :
    (∀ n, (s.run env (inputs.take n)).2.Driving) ↔
      ∀ visit ∈ (s.run env inputs).1, OnTime env visit := by
  induction inputs generalizing s root phase with
  | nil => simpa [State.run] using hs
  | cons msgs inputs ih =>
    obtain ⟨⟨root', phase', htree'⟩, hiter⟩ := driving_iterate env htree hs msgs
    have hstates : (∀ n, (s.run env ((msgs :: inputs).take n)).2.Driving) ↔
        ∀ n, ((s.iterate env msgs).2.run env (inputs.take n)).2.Driving := by
      rw [← Nat.and_forall_add_one]
      exact and_iff_right hs
    have hvisits : (∀ visit ∈ (s.run env (msgs :: inputs)).1, OnTime env visit) ↔
        (s.iterate env msgs).2.Driving ∧
          ∀ visit ∈ ((s.iterate env msgs).2.run env inputs).1, OnTime env visit := by
      rw [State.run, List.forall_mem_append, hiter]
    rw [hstates, hvisits]
    constructor
    · intro h
      exact ⟨h 0, (ih htree' (h 0)).1 h⟩
    · rintro ⟨hnext, h⟩
      exact (ih htree' hnext).2 h

/-- The robot drives to the goal the tree waits for, after every iteration of the main
    loop, just when no publication is throttled unless its goal was the last one
    published. -/
theorem driving_iff (env : Env) (homePosition : PoseStamped)
    (zoneModeTopic frontPatrolCsv : String) (inputs : List (List SerialReceiveData)) :
    (∀ n, ((State.init homePosition zoneModeTopic frontPatrolCsv).run env
      (inputs.take n)).2.Driving) ↔
      ∀ visit ∈ ((State.init homePosition zoneModeTopic frontPatrolCsv).run env inputs).1,
        OnTime env visit := by
  have htree := State.tree_init homePosition zoneModeTopic frontPatrolCsv
  refine driving_run htree ((driving_iff_target htree).2 ?_) inputs
  simp [Phase.target]

/-- A clock with a millisecond between its readings, and a file with one waypoint. -/
def switchEnv : Env where
  now n := n * 1000000
  lookupTransform _ := none
  file _ _ := some "id,x,y,z,qx,qy,qz,qw\n0,1,0,0,0,0,0,1".toList
  stod field := if field = ['1'] then some 1 else if field = ['0'] then some 0 else none

/-- The health is low, then high, then low again within half a second: the robot drives
    to the waypoint, and the tree waits until it has reached home. -/
theorem not_driving_switch :
    ¬∀ env : Env, (∀ i j, i ≤ j → env.now i ≤ env.now j) →
      ∀ homePosition zoneModeTopic frontPatrolCsv inputs,
        ((State.init homePosition zoneModeTopic frontPatrolCsv).run env inputs).2.Driving := by
  intro h
  have hmono : ∀ i j, i ≤ j → switchEnv.now i ≤ switchEnv.now j := fun i j hij => by
    simp only [switchEnv]
    omega
  let s := ((State.init ⟨"map", ⟨⟨0, 0, 0⟩, ⟨0, 0, 0, 1⟩⟩⟩ "" "").run switchEnv
    [[{ hp := 200 }], [{ hp := 400 }], [{ hp := 200 }]]).2
  have hwaiting : (.waitUntilReached .home, .running) ∈ s.tree.leaves := by decide +kernel
  have hlast : s.world.goalPoses.getLast? = some ⟨"map", ⟨⟨1, 0, 0⟩, ⟨0, 0, 0, 1⟩⟩⟩ := by
    decide +kernel
  have hgoal : (s.world.waits .home).goal.pose ≠ ⟨⟨1, 0, 0⟩, ⟨0, 0, 0, 1⟩⟩ := by decide +kernel
  obtain ⟨msg, hmsg, hpose⟩ := h switchEnv hmono _ _ _ _ .home hwaiting
  rw [hlast, Option.mem_some_iff] at hmsg
  exact hgoal (by rw [← hpose, ← hmsg])

end Sentry.Behavior
