import Sentry.Behavior.Resume

/-!
# The patrol goes on

With enough health, the patrol branch stops for nothing but an empty file: a tick leaves it
running just when it was running before, or when the file that the tick reads has a waypoint
in reach (`patrols_iff`). On the way, no leaf is visited in a world that it is not made for
(`Defined`), whatever becomes of the file: in particular, the modulus of `NextWaypoint` is
positive, and its sum does not overflow (`visits_defined`).
-/

namespace Sentry.Behavior

open BehaviorTree (Status Node)
open Sentry.Talker (SerialReceiveData)

/-! ## Visits -/

/-- The entries that a leaf reads from the blackboard are there, and its arithmetic is that of
    an `int`. -/
def Defined : Leaf × World → Prop
  | (.pubNav2Goal branch, w) => ∃ goal, w.goalPose branch = some goal
  | (.waitUntilReached branch, w) => ∃ goal, w.goalPose branch = some goal
  | (.getCurrentWaypoint, w) => ∃ waypoints waitTimes,
    w.board.frontWaypoints = some waypoints ∧ w.board.frontWaitTimes = some waitTimes ∧
      ∃ idx, w.board.frontWpIdx = some idx ∧ 0 ≤ idx ∧ idx < 2 ^ 31
  | (.waitDuration, w) => ∃ waitSec, w.board.frontCurrentWaitSec = some waitSec
  | (.nextWaypoint, w) => ∃ idx total, w.board.frontWpIdx = some idx ∧
    w.board.frontTotalWaypoints = some total ∧ 0 ≤ idx ∧ idx + 1 ≤ total ∧ total < 2 ^ 31
  | _ => True

/-- The blackboard is that of a tour whose current goal was taken. -/
structure World.Rides (w : World) : Prop where
  follows : ∃ waypoints t, w.Follows waypoints t
  waitTimes : ∃ waitTimes, w.board.frontWaitTimes = some waitTimes
  goal : ∃ goal, w.board.frontCurrentGoal = some goal
  waitSec : ∃ waitSec, w.board.frontCurrentWaitSec = some waitSec

/-- A move visits defined leaves, and comes to a tour if the patrol branch is running. -/
structure Move.Sound (m : Move) : Prop where
  defined : ∀ visit ∈ m.visits, Defined visit
  rides : m.phase.Patrolling → m.world.Rides

/-- The file that is read in a world has a waypoint in reach. -/
def World.Loads (w : World) (env : Env) : Prop :=
  ∃ waypoints waits, loadWaypointsFromCSV env.stod
    (env.file w.fileReads w.board.frontPatrolCsv) "map" true = some (waypoints, waits) ∧
      0 < (reachable waypoints).length

section

variable {env : Env} {w w' : World} {phase : Phase} {waypoints : List PoseStamped}
  {t : Tour PoseStamped}

theorem toInt32_lt (n : ℕ) : toInt32 n < 2 ^ 31 := BitVec.toInt_lt

theorem World.Follows.index_lt (h : w.Follows waypoints t) : (t.index : ℤ) + 1 ≤ t.stops.length ∧
    (t.stops.length : ℤ) < 2 ^ 31 := by
  have hlt := t.index.isLt
  have hsize := toInt32_lt waypoints.length
  rw [h.toInt32_length] at hsize
  exact ⟨by omega, hsize⟩

/-- The entries of a ride stay. -/
theorem World.Rides.of_eq (h : w.Rides)
    (hwaypoints : w'.board.frontWaypoints = w.board.frontWaypoints)
    (htotal : w'.board.frontTotalWaypoints = w.board.frontTotalWaypoints)
    (hidx : w'.board.frontWpIdx = w.board.frontWpIdx)
    (hwaitTimes : w'.board.frontWaitTimes = w.board.frontWaitTimes)
    (hgoal : w'.board.frontCurrentGoal = w.board.frontCurrentGoal)
    (hwaitSec : w'.board.frontCurrentWaitSec = w.board.frontCurrentWaitSec) : w'.Rides := by
  obtain ⟨⟨waypoints, t, hfollows⟩, waitTimes, goal, waitSec⟩ := h
  exact ⟨⟨waypoints, t, hfollows.of_eq hwaypoints htotal hidx⟩, hwaitTimes ▸ waitTimes,
    hgoal ▸ goal, hwaitSec ▸ waitSec⟩

theorem Move.Sound.after {m : Move} (h : m.Sound) {visits : List (Leaf × World)}
    (hvisits : ∀ visit ∈ visits, Defined visit) : (m.after visits).Sound := by
  refine ⟨fun visit hvisit => ?_, h.rides⟩
  rcases List.mem_append.1 hvisit with hvisit | hvisit
  · exact hvisits visit hvisit
  · exact h.defined visit hvisit

theorem rides_checkReached (env : Env) (branch : Branch) (h : w.Rides) :
    (w.checkReached env branch).2.Rides := h.of_eq rfl rfl rfl rfl rfl rfl

theorem rides_waitDuration {status : Status} (h : w.Rides) :
    ((sem env .waitDuration).tick status w).2.Rides := by
  cases status with
  | idle =>
    simp only [sem, BehaviorTree.Leaf.stateful, World.startDuration]
    split <;> exact h.of_eq rfl rfl rfl rfl rfl rfl
  | running | success | failure => exact h.of_eq rfl rfl rfl rfl rfl rfl

/-! ## Moves -/

theorem sound_nextMove (h : w.Rides) : (nextMove w).Sound ∧ (nextMove w).phase.Patrolling := by
  obtain ⟨⟨waypoints, t, hfollows⟩, hwaitTimes, hgoal, hwaitSec⟩ := h
  obtain ⟨hstatus, hnext⟩ := nextWaypoint_of_follows hfollows
  obtain ⟨hle, hlt⟩ := hfollows.index_lt
  have hworld : w.nextWaypoint.2.Rides := by
    refine ⟨⟨waypoints, t.next, hnext⟩, ?_, ?_, ?_⟩ <;>
      simp only [World.nextWaypoint, hfollows.idx, hfollows.total] <;> assumption
  have hphase : (nextMove w).phase = .lap := if_pos hstatus
  refine ⟨⟨fun visit hvisit => ?_, fun _ => hworld⟩, by simp [hphase, Phase.Patrolling]⟩
  rw [List.mem_singleton.1 hvisit]
  exact ⟨t.index, t.stops.length, hfollows.idx, hfollows.total, Int.natCast_nonneg _, hle, hlt⟩

theorem sound_pauseMove (env : Env) (status : Status) (h : w.Rides) :
    (pauseMove env status w).Sound ∧ (pauseMove env status w).phase.Patrolling := by
  have hvisit : ∀ visit ∈ [(Leaf.waitDuration, w)], Defined visit := by
    intro visit hvisit
    rw [List.mem_singleton.1 hvisit]
    exact h.waitSec
  have hworld : ((sem env .waitDuration).tick status w).2.Rides := rides_waitDuration h
  simp only [pauseMove]
  split
  · exact ⟨⟨hvisit, fun _ => hworld⟩, by simp [Phase.Patrolling]⟩
  · obtain ⟨hsound, hphase⟩ := sound_nextMove hworld
    exact ⟨hsound.after hvisit, hphase⟩

theorem sound_driveMove (h : w.Rides) :
    (driveMove env w).Sound ∧ (driveMove env w).phase.Patrolling := by
  have hvisit : ∀ visit ∈ [(Leaf.waitUntilReached .patrol, w)], Defined visit := by
    intro visit hvisit
    rw [List.mem_singleton.1 hvisit]
    exact h.goal
  simp only [driveMove]
  split
  · obtain ⟨hsound, hphase⟩ := sound_pauseMove env .idle (rides_checkReached env .patrol h)
    exact ⟨hsound.after hvisit, hphase⟩
  · exact ⟨⟨hvisit, fun _ => rides_checkReached env .patrol h⟩, by simp [Phase.Patrolling]⟩

@[simp] theorem pubNav2Goal_board (env : Env) (branch : Branch) (w : World) :
    (w.pubNav2Goal env branch).2.board = w.board := by
  simp only [World.pubNav2Goal]
  split
  · rfl
  · split <;> rfl

@[simp] theorem startWait_board (branch : Branch) (w : World) :
    (w.startWait branch).2.board = w.board := by
  rw [World.startWait]
  split <;> rfl

/-- The time to wait at a waypoint is taken together with it. -/
theorem getCurrentWaypoint_waitSec (h : w.getCurrentWaypoint.1 = .success) :
    ∃ waitSec, w.getCurrentWaypoint.2.board.frontCurrentWaitSec = some waitSec := by
  simp only [World.getCurrentWaypoint] at h ⊢
  split
  · split
    · simp_all
    · split
      · simp_all
      · exact ⟨_, rfl⟩
  · simp_all

@[simp] theorem getCurrentWaypoint_waitTimes (w : World) :
    w.getCurrentWaypoint.2.board.frontWaitTimes = w.board.frontWaitTimes := by
  simp only [World.getCurrentWaypoint]
  split
  · split
    · rfl
    · split <;> rfl
  · rfl

/-- On a tour, a waypoint is taken and set out for. -/
theorem sound_lapMove (env : Env) (h : w.Follows waypoints t) {waits : List ℚ}
    (hwaits : w.board.frontWaitTimes = some waits) :
    (lapMove env w).Sound ∧ (lapMove env w).phase.Patrolling := by
  obtain ⟨hstatus, hgoal, hfollows⟩ := getCurrentWaypoint_of_follows h
  obtain ⟨hle, hlt⟩ := h.index_lt
  have hrides : w.getCurrentWaypoint.2.Rides :=
    ⟨⟨waypoints, t, hfollows⟩, ⟨waits, (getCurrentWaypoint_waitTimes w).trans hwaits⟩, ⟨_, hgoal⟩,
      getCurrentWaypoint_waitSec hstatus⟩
  simp only [lapMove, hstatus, if_true]
  refine ⟨⟨fun visit hvisit => ?_, fun _ => ?_⟩, by simp [Phase.Patrolling]⟩
  · obtain rfl | rfl | rfl : visit = _ ∨ visit = _ ∨ visit = _ := by simpa using hvisit
    · exact ⟨waypoints, waits, h.waypoints, hwaits, t.index, h.idx, Int.natCast_nonneg _, by omega⟩
    · exact ⟨_, hgoal⟩
    · exact ⟨_, (World.pubNav2Goal_goalPose env .patrol .patrol _).trans hgoal⟩
  · exact hrides.of_eq (by simp) (by simp) (by simp) (by simp) (by simp) (by simp)

/-- A load that succeeds sets the waiting times. -/
theorem loadWaypoints_waitTimes {waits : List ℚ} (h : loadWaypointsFromCSV env.stod
    (env.file w.fileReads w.board.frontPatrolCsv) "map" true = some (waypoints, waits)) :
    (w.loadWaypoints env).2.board.frontWaitTimes = some waits := by
  simp [World.loadWaypoints, h]

/-- Where no waypoint is in reach, none is taken. -/
theorem sound_lapMove_of_load {waits : List ℚ} (h : loadWaypointsFromCSV env.stod
    (env.file w.fileReads w.board.frontPatrolCsv) "map" true = some (waypoints, waits))
    (hreach : ¬0 < (reachable waypoints).length) :
    (lapMove env (w.loadWaypoints env).2).Sound ∧
      (lapMove env (w.loadWaypoints env).2).phase = .idle := by
  obtain ⟨-, hwaypoints, -, hidx⟩ := loadWaypoints_of_load h
  have hphase : (lapMove env (w.loadWaypoints env).2).phase = .idle :=
    lapMove_of_unreachable hwaypoints hidx (List.eq_nil_of_length_eq_zero (by omega))
  refine ⟨⟨fun visit hvisit => ?_, fun hpatrol => absurd hphase hpatrol.1⟩, hphase⟩
  simp only [lapMove] at hphase hvisit
  split at hphase
  · exact absurd hphase (by simp)
  next hfail =>
    rw [if_neg hfail] at hvisit
    rw [List.mem_singleton.1 hvisit]
    exact ⟨waypoints, waits, hwaypoints, loadWaypoints_waitTimes h, 0, hidx, le_rfl, by decide⟩

/-- Starting the patrol takes a waypoint of the file, if one is in reach. -/
theorem sound_patrolMove (env : Env) (w : World) :
    (patrolMove env w).Sound ∧ ((patrolMove env w).phase.Patrolling ↔ w.Loads env) := by
  have hloads : w.Loads env ↔
      ((w.setSentryMode env .patrol).2.announceBehavior .patrol).2.Loads env := Iff.rfl
  rw [hloads]
  simp only [patrolMove]
  have hvisits : ∀ visit ∈ [(Leaf.setSentryMode .patrol, w),
      (.announceBehavior .patrol, (w.setSentryMode env .patrol).2),
      (.loadWaypoints, ((w.setSentryMode env .patrol).2.announceBehavior .patrol).2)],
      Defined visit := by
    simp [Defined]
  generalize ((w.setSentryMode env .patrol).2.announceBehavior .patrol).2 = w' at hvisits ⊢
  cases hload : loadWaypointsFromCSV env.stod (env.file w'.fileReads w'.board.frontPatrolCsv) "map"
    true with
  | none =>
    rw [loadWaypoints_of_fail hload]
    refine ⟨⟨hvisits, fun hpatrol => absurd rfl hpatrol.1⟩, fun hpatrol => absurd rfl hpatrol.1, ?_⟩
    rintro ⟨waypoints, waits, hloaded, -⟩
    exact absurd (hload.symm.trans hloaded) (by simp)
  | some loaded =>
    obtain ⟨waypoints, waits⟩ := loaded
    rw [if_pos (loadWaypoints_of_load hload).1]
    by_cases hreach : 0 < (reachable waypoints).length
    · obtain ⟨hsound, hphase⟩ := sound_lapMove env (follows_of_load hload hreach)
        (loadWaypoints_waitTimes hload)
      exact ⟨hsound.after hvisits, fun _ => ⟨waypoints, waits, hload, hreach⟩, fun _ => hphase⟩
    · obtain ⟨hsound, hphase⟩ := sound_lapMove_of_load hload hreach
      refine ⟨hsound.after hvisits, fun hpatrol => absurd hphase hpatrol.1, ?_⟩
      rintro ⟨waypoints', waits', hloaded, hreach'⟩
      obtain ⟨rfl, -⟩ := Prod.mk.inj (Option.some.inj (hload.symm.trans hloaded))
      exact absurd hreach' hreach

/-- With enough health, the patrol branch goes on, or starts on a file with a waypoint. -/
theorem sound_patrolNodeMove (env : Env) (h : phase.Patrolling → w.Rides) :
    (patrolNodeMove env w phase).Sound ∧
      ((patrolNodeMove env w phase).phase.Patrolling ↔ phase.Patrolling ∨ w.Loads env) := by
  cases phase with
  | idle | home =>
    obtain ⟨hsound, hphase⟩ := sound_patrolMove env w
    exact ⟨hsound, hphase.trans (by simp [Phase.Patrolling])⟩
  | drive =>
    have hpatrol : Phase.drive.Patrolling := by simp [Phase.Patrolling]
    obtain ⟨hsound, hphase⟩ := sound_driveMove (h hpatrol)
    exact ⟨hsound, iff_of_true hphase (.inl hpatrol)⟩
  | pause =>
    have hpatrol : Phase.pause.Patrolling := by simp [Phase.Patrolling]
    obtain ⟨hsound, hphase⟩ := sound_pauseMove env .running (h hpatrol)
    exact ⟨hsound, iff_of_true hphase (.inl hpatrol)⟩
  | lap =>
    have hpatrol : Phase.lap.Patrolling := by simp [Phase.Patrolling]
    obtain ⟨⟨waypoints, t, hfollows⟩, ⟨waits, hwaits⟩, -, -⟩ := h hpatrol
    obtain ⟨hsound, hphase⟩ := sound_lapMove env hfollows hwaits
    exact ⟨hsound, iff_of_true hphase (.inl hpatrol)⟩

/-- The branch for low health has its goal, the home position. -/
theorem sound_homeNodeMove (env : Env) (w : World) (phase : Phase) :
    (homeNodeMove env w phase).Sound := by
  refine ⟨?_, fun hpatrol => ?_⟩
  · simp only [homeNodeMove]
    split <;> simp [homeMove, goHomeMove, Defined, World.goalPose]
  · rcases homeNodeMove_phase phase w with hphase | hphase
    · exact absurd hphase hpatrol.1
    · exact absurd hphase hpatrol.2

/-- A tick visits defined leaves and keeps the ride; with enough health, the patrol goes on, or
    starts on a file with a waypoint. -/
theorem sound_move (env : Env) (h : phase.Patrolling → w.Rides) :
    (move env phase w).Sound ∧ (w.writer.isReadInterface = true → ¬w.writer.hp < 300 →
      ((move env phase w).phase.Patrolling ↔ phase.Patrolling ∨ w.Loads env)) := by
  cases hread : w.writer.isReadInterface with
  | false =>
    rw [move_noMessage env phase hread]
    exact ⟨⟨by simp [Defined], fun hpatrol => absurd rfl hpatrol.1⟩, by simp⟩
  | true =>
    have hvisits : ∀ visit ∈ [(Leaf.writeToBlackboard, w),
        (.hpCondition, w.writeToBlackboard.2)], Defined visit := by simp [Defined]
    have hwrite : w.writeToBlackboard.2.Loads env ↔ w.Loads env := by
      simp [World.Loads, World.writeToBlackboard, hread]
    have hrides : phase.Patrolling → w.writeToBlackboard.2.Rides := by
      intro hpatrol
      rw [World.writeToBlackboard]
      split <;> exact (h hpatrol).of_eq rfl rfl rfl rfl rfl rfl
    rw [move_message env phase hread]
    split
    next hlow =>
      exact ⟨(sound_homeNodeMove env _ phase).after hvisits, fun _ hhigh => absurd hlow hhigh⟩
    next hhigh =>
      obtain ⟨hsound, hphase⟩ := sound_patrolNodeMove env hrides
      exact ⟨hsound.after hvisits, fun _ _ => hphase.trans (or_congr Iff.rfl hwrite)⟩

end

/-! ## Runs -/

/-- The blackboard is that of a ride, if the patrol branch is running. -/
def State.Rides (s : State) : Prop := ¬Still .patrol s.tree → s.world.Rides

section

variable {s : State} {root : Status} {phase : Phase}

theorem patrolling_iff (root : Status) (phase : Phase) :
    ¬Still .patrol (phase.tree root) ↔ phase.Patrolling := by
  rw [still_patrol, not_or]
  rfl

/-- A delivery keeps the ride. -/
theorem State.Rides.deliver (h : s.Rides) (htree : s.tree = phase.tree root)
    (msgs : List SerialReceiveData) (hpatrol : phase.Patrolling) :
    (s.world.deliver msgs).Rides := by
  rw [World.deliver_eq]
  refine World.Rides.of_eq (h ?_) rfl rfl rfl rfl rfl rfl
  rw [htree]
  exact (patrolling_iff root phase).2 hpatrol

/-- An iteration visits defined leaves, and keeps the ride. -/
theorem State.Rides.iterate (env : Env) (h : s.Rides) (htree : s.tree = phase.tree root)
    (msgs : List SerialReceiveData) :
    (∀ visit ∈ (s.iterate env msgs).1, Defined visit) ∧ (s.iterate env msgs).2.Rides := by
  obtain ⟨root', hiter⟩ := State.iterate_tree env htree msgs
  obtain ⟨hdefined, hrides⟩ := (sound_move env (h.deliver htree msgs)).1
  rw [hiter]
  exact ⟨hdefined, fun hpatrol => hrides ((patrolling_iff root' _).1 hpatrol)⟩

/-- A run visits defined leaves, and keeps the ride. -/
theorem State.Rides.run (env : Env) (h : s.Rides) (htree : s.tree = phase.tree root)
    (inputs : List (List SerialReceiveData)) :
    (∀ visit ∈ (s.run env inputs).1, Defined visit) ∧ (s.run env inputs).2.Rides := by
  induction inputs generalizing s root phase with
  | nil => exact ⟨by simp [State.run], h⟩
  | cons msgs inputs ih =>
    obtain ⟨hdefined, hrides⟩ := h.iterate env htree msgs
    obtain ⟨root', hiter⟩ := State.iterate_tree env htree msgs
    obtain ⟨hdefined', hrides'⟩ := ih hrides (congrArg (fun r => r.2.tree) hiter)
    refine ⟨fun visit hvisit => ?_, hrides'⟩
    rcases List.mem_append.1 hvisit with hvisit | hvisit
    · exact hdefined visit hvisit
    · exact hdefined' visit hvisit

end

variable (env : Env) (homePosition : PoseStamped) (zoneModeTopic frontPatrolCsv : String)

theorem init_rides : (State.init homePosition zoneModeTopic frontPatrolCsv).Rides := fun hpatrol =>
  absurd (by decide : Still .patrol mainTree) hpatrol

/-- In every run, on whatever files, each leaf is visited in a world that it is made for. -/
theorem visits_defined (inputs : List (List SerialReceiveData)) :
    ∀ visit ∈ ((State.init homePosition zoneModeTopic frontPatrolCsv).run env inputs).1,
      Defined visit :=
  ((init_rides homePosition zoneModeTopic frontPatrolCsv).run env
    (State.tree_init homePosition zoneModeTopic frontPatrolCsv) inputs).1

/-- The first waypoint is taken in the tick of the first message. -/
theorem visits_defined_start :
    let visits := ((State.init ⟨"map", ⟨⟨0, 0, 0⟩, ⟨0, 0, 0, 1⟩⟩⟩ "" "").run twoEnv
      [[{ hp := 400 }]]).1
    ∃ hlength : 5 < visits.length, (visits.get ⟨5, hlength⟩).1 = .getCurrentWaypoint ∧
      Defined (visits.get ⟨5, hlength⟩) :=
  ⟨by decide +kernel, by decide +kernel,
    visits_defined twoEnv ⟨"map", ⟨⟨0, 0, 0⟩, ⟨0, 0, 0, 1⟩⟩⟩ "" "" [[{ hp := 400 }]] _
      (List.get_mem _ _)⟩

/-- A tick with enough health leaves the patrol branch running just when it was running before,
    or when the file has a waypoint in reach. -/
theorem patrols_iff (inputs : List (List SerialReceiveData)) (msgs : List SerialReceiveData)
    (hhigh : High (inputs ++ [msgs])) :
    let before := ((State.init homePosition zoneModeTopic frontPatrolCsv).run env inputs).2
    ¬Still .patrol (before.iterate env msgs).2.tree ↔
      ¬Still .patrol before.tree ∨ before.world.Loads env := by
  intro before
  obtain ⟨root, phase, htree⟩ := init_tree env homePosition zoneModeTopic frontPatrolCsv inputs
  have hrides := ((init_rides homePosition zoneModeTopic frontPatrolCsv).run env
    (State.tree_init homePosition zoneModeTopic frontPatrolCsv) inputs).2
  obtain ⟨msg, hmsg, hhp⟩ := hhigh
  have hdeliver := init_deliver env homePosition zoneModeTopic frontPatrolCsv hmsg
  obtain ⟨root', hiter⟩ := State.iterate_tree env htree msgs
  have hmove := (sound_move env (hrides.deliver htree msgs)).2 (by rw [hdeliver]; rfl)
    (by rw [hdeliver]; exact hhp)
  have hloads : (before.world.deliver msgs).Loads env ↔ before.world.Loads env := by
    rw [World.deliver_eq]
    rfl
  have hafter : (before.iterate env msgs).2.tree = _ := congrArg (fun r => r.2.tree) hiter
  rw [hafter, patrolling_iff, hmove, hloads, show before.tree = _ from htree, patrolling_iff]

/-- The patrol starts on a file with two waypoints. -/
theorem patrols_iff_start :
    let before := ((State.init ⟨"map", ⟨⟨0, 0, 0⟩, ⟨0, 0, 0, 1⟩⟩⟩ "" "").run twoEnv []).2
    ¬Still .patrol (before.iterate twoEnv [{ hp := 400 }]).2.tree ↔
      ¬Still .patrol before.tree ∨ before.world.Loads twoEnv :=
  patrols_iff twoEnv ⟨"map", ⟨⟨0, 0, 0⟩, ⟨0, 0, 0, 1⟩⟩⟩ "" "" [] [{ hp := 400 }]
    (by decide +kernel)

end Sentry.Behavior
