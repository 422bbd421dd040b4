import Sentry.Behavior.Preempt
import Sentry.Behavior.Route

/-!
# Resuming the patrol

What happens to the patrol when low health interrupts it. While the patrol branch is
running, the blackboard is that of a tour of the waypoints (`State.OnTour`), whatever
has happened before. But when the branch is entered again, it loads the file again,
which starts a new tour: the first goal taken is the first waypoint, so the patrol
resumes where it was interrupted just when it was at the first waypoint
(`resumes_iff`).
-/

namespace Sentry.Behavior

open BehaviorTree (Status Node)
open Sentry.Talker (SerialReceiveData)

/-! ## Goals taken -/

/-- The goal that a visit takes. -/
def goalTaken : Leaf × World → Option PoseStamped
  | (.getCurrentWaypoint, w) =>
    if w.getCurrentWaypoint.1 = .success then w.getCurrentWaypoint.2.board.frontCurrentGoal
    else none
  | _ => none

/-- The first goal taken in some visits. -/
def firstGoal (visits : List (Leaf × World)) : Option PoseStamped :=
  (visits.filterMap goalTaken).head?

/-- The patrol branch is running in a phase. -/
def Phase.Patrolling (phase : Phase) : Prop := phase ≠ .idle ∧ phase ≠ .home

/-- The blackboard is that of a tour of the waypoints, if the patrol branch is running. -/
def Move.OnTour (waypoints : List PoseStamped) (m : Move) : Prop :=
  m.phase.Patrolling → ∃ t, m.world.Follows waypoints t

section

variable {env : Env} {w w' : World} {waypoints : List PoseStamped} {t : Tour PoseStamped}
  {phase : Phase} {content : List Char}

/-- The entries of a tour stay. -/
theorem World.Follows.of_eq (h : w.Follows waypoints t)
    (hwaypoints : w'.board.frontWaypoints = w.board.frontWaypoints)
    (htotal : w'.board.frontTotalWaypoints = w.board.frontTotalWaypoints)
    (hidx : w'.board.frontWpIdx = w.board.frontWpIdx) : w'.Follows waypoints t :=
  ⟨h.stops, hwaypoints.trans h.waypoints, htotal.trans h.total, hidx.trans h.idx⟩

theorem follows_writeToBlackboard (h : w.Follows waypoints t) :
    w.writeToBlackboard.2.Follows waypoints t := by
  rw [World.writeToBlackboard]
  split <;> exact h.of_eq rfl rfl rfl

theorem follows_pubNav2Goal {branch : Branch} (h : w.Follows waypoints t) :
    (w.pubNav2Goal env branch).2.Follows waypoints t := by
  simp only [World.pubNav2Goal]
  split
  · exact h.of_eq rfl rfl rfl
  · split <;> exact h.of_eq rfl rfl rfl

theorem follows_startWait {branch : Branch} (h : w.Follows waypoints t) :
    (w.startWait branch).2.Follows waypoints t := by
  rw [World.startWait]
  split <;> exact h.of_eq rfl rfl rfl

theorem follows_startDuration (h : w.Follows waypoints t) :
    (w.startDuration env).2.Follows waypoints t := by
  simp only [World.startDuration]
  split <;> exact h.of_eq rfl rfl rfl

/-! ## Moves -/

theorem onTour_nextMove (h : w.Follows waypoints t) : (nextMove w).OnTour waypoints :=
  fun _ => ⟨t.next, (nextWaypoint_of_follows h).2⟩

theorem onTour_pauseMove {status : Status} (hstatus : status = .idle ∨ status = .running)
    (h : w.Follows waypoints t) : (pauseMove env status w).OnTour waypoints := by
  have hworld : ((sem env .waitDuration).tick status w).2.Follows waypoints t := by
    rcases hstatus with rfl | rfl
    · exact follows_startDuration h
    · exact h.of_eq rfl rfl rfl
  simp only [pauseMove]
  split
  · exact fun _ => ⟨t, hworld⟩
  · exact onTour_nextMove hworld

theorem onTour_driveMove (h : w.Follows waypoints t) : (driveMove env w).OnTour waypoints := by
  have hworld : (w.checkReached env .patrol).2.Follows waypoints t := h.of_eq rfl rfl rfl
  simp only [driveMove]
  split
  · exact onTour_pauseMove (.inl rfl) hworld
  · exact fun _ => ⟨t, hworld⟩

/-- On a tour, the current stop is set out for. -/
theorem lapMove_of_follows (env : Env) (h : w.Follows waypoints t) :
    (lapMove env w).world.Follows waypoints t ∧
      firstGoal (lapMove env w).visits = some t.current := by
  obtain ⟨hstatus, hgoal, hnext⟩ := getCurrentWaypoint_of_follows h
  simp only [lapMove, hstatus, if_true]
  refine ⟨follows_startWait (follows_pubNav2Goal hnext), ?_⟩
  simp [firstGoal, goalTaken, hstatus, hgoal]

/-- If the index can reach no waypoint, none is set out for. -/
theorem lapMove_of_unreachable (hwaypoints : w.board.frontWaypoints = some waypoints)
    (hidx : w.board.frontWpIdx = some 0) (h : reachable waypoints = []) :
    (lapMove env w).phase = .idle := by
  have hlength := length_reachable waypoints
  rw [h, List.length_nil] at hlength
  have hstatus : w.getCurrentWaypoint.1 = .failure := by
    simp only [World.getCurrentWaypoint, hwaypoints, hidx]
    rw [if_pos (.inr (by omega))]
  simp [lapMove, hstatus]

/-- Visits that take no goal do not matter. -/
theorem firstGoal_append {visits : List (Leaf × World)}
    (h : ∀ visit ∈ visits, goalTaken visit = none) (visits' : List (Leaf × World)) :
    firstGoal (visits ++ visits') = firstGoal visits' := by
  rw [firstGoal, List.filterMap_append, List.filterMap_eq_nil_iff.2 h]
  rfl

/-- Starting the patrol on a file starts a new tour of its waypoints; if the index can
    reach none of them, the patrol does not start. -/
theorem patrolMove_of_file (hfile : ∀ k, env.file k w.board.frontPatrolCsv = some content) :
    (patrolMove env w).OnTour (route env.stod "map" content) ∧
      ∀ hpos : 0 < (reachable (route env.stod "map" content)).length,
        firstGoal (patrolMove env w).visits =
          some (Tour.start (reachable (route env.stod "map" content)) hpos).current := by
  have hload : loadWaypointsFromCSV env.stod (some content) "map" true = _ :=
    loadWaypointsFromCSV_eq content true
  simp only [patrolMove]
  -- the leaves before the load leave the name of the file
  generalize hworld : ((w.setSentryMode env .patrol).2.announceBehavior .patrol).2 = w'
  have hcsv : w'.board.frontPatrolCsv = w.board.frontPatrolCsv := hworld ▸ rfl
  rw [← hfile w'.fileReads, ← hcsv] at hload
  by_cases hroute : route env.stod "map" content = []
  · rw [if_pos hroute] at hload
    simp [loadWaypoints_of_fail hload, Move.OnTour, Phase.Patrolling, hroute, reachable]
  · rw [if_neg hroute] at hload
    obtain ⟨hstatus, hwaypoints, -, hidx⟩ := loadWaypoints_of_load hload
    simp only [hstatus, if_true]
    by_cases hpos : 0 < (reachable (route env.stod "map" content)).length
    · obtain ⟨hfollows, hgoal⟩ := lapMove_of_follows env (follows_of_load hload hpos)
      refine ⟨fun _ => ⟨_, hfollows⟩, fun _ => ?_⟩
      exact (firstGoal_append (by simp [goalTaken]) _).trans hgoal
    · have hnil : reachable (route env.stod "map" content) = [] :=
        List.eq_nil_of_length_eq_zero (by omega)
      exact ⟨fun hpatrol => absurd (lapMove_of_unreachable hwaypoints hidx hnil) hpatrol.1,
        fun h => absurd h hpos⟩

/-- The patrol branch keeps the tour, or starts a new one. -/
theorem onTour_patrolNodeMove (hfile : ∀ k, env.file k w.board.frontPatrolCsv = some content)
    (h : phase.Patrolling → ∃ t, w.Follows (route env.stod "map" content) t) :
    (patrolNodeMove env w phase).OnTour (route env.stod "map" content) := by
  cases phase with
  | idle | home => exact (patrolMove_of_file hfile).1
  | drive =>
    obtain ⟨t, ht⟩ := h (by simp [Phase.Patrolling])
    exact onTour_driveMove ht
  | pause =>
    obtain ⟨t, ht⟩ := h (by simp [Phase.Patrolling])
    exact onTour_pauseMove (.inr rfl) ht
  | lap =>
    obtain ⟨t, ht⟩ := h (by simp [Phase.Patrolling])
    exact fun _ => ⟨t, (lapMove_of_follows env ht).1⟩

/-- A tick keeps the tour, or starts a new one. -/
theorem onTour_move (hfile : ∀ k, env.file k w.board.frontPatrolCsv = some content)
    (h : phase.Patrolling → ∃ t, w.Follows (route env.stod "map" content) t) :
    (move env phase w).OnTour (route env.stod "map" content) := by
  cases hread : w.writer.isReadInterface with
  | false =>
    rw [move_noMessage env phase hread]
    exact fun hpatrol => absurd rfl hpatrol.1
  | true =>
    rw [move_message env phase hread]
    split
    · -- the branch for low health has reset the patrol branch
      intro hpatrol
      rcases homeNodeMove_phase phase w.writeToBlackboard.2 with hphase | hphase
      · exact absurd hphase hpatrol.1
      · exact absurd hphase hpatrol.2
    · have hcsv : w.writeToBlackboard.2.board.frontPatrolCsv = w.board.frontPatrolCsv :=
        (tick_effect env .writeToBlackboard .idle w).frontPatrolCsv
      refine onTour_patrolNodeMove (hcsv ▸ hfile) fun hpatrol => ?_
      obtain ⟨t, ht⟩ := h hpatrol
      exact ⟨t, follows_writeToBlackboard ht⟩

end

/-! ## Runs -/

/-- On a file that stays the same, the tree is in a phase after every iteration, and the
    blackboard is that of a tour while the patrol branch is running. -/
theorem State.run_onTour {env : Env} {content : List Char} {s : State} {root : Status}
    {phase : Phase} (hfile : ∀ k, env.file k s.world.board.frontPatrolCsv = some content)
    (htree : s.tree = phase.tree root)
    (h : phase.Patrolling → ∃ t, s.world.Follows (route env.stod "map" content) t)
    (inputs : List (List SerialReceiveData)) :
    ∃ root' phase', (s.run env inputs).2.tree = Phase.tree root' phase' ∧
      (phase'.Patrolling →
        ∃ t, (s.run env inputs).2.world.Follows (route env.stod "map" content) t) := by
  induction inputs generalizing s root phase with
  | nil => exact ⟨root, phase, htree, h⟩
  | cons msgs inputs ih =>
    have hcsv := (run_frame (s.iterate_run env msgs)).1.2.1
    obtain ⟨root', hiter⟩ := State.iterate_tree env htree msgs
    have hmove : (move env phase (s.world.deliver msgs)).OnTour (route env.stod "map" content) := by
      rw [World.deliver_eq]
      refine onTour_move hfile fun hpatrol => ?_
      obtain ⟨t, ht⟩ := h hpatrol
      exact ⟨t, ht.of_eq rfl rfl rfl⟩
    rw [World.deliver_eq] at hcsv
    rw [State.run]
    refine ih ?_ (congrArg (fun r => r.2.tree) hiter) ?_
    · exact hcsv ▸ hfile
    · rw [hiter]
      exact hmove

/-- The health in the last message is low. -/
def Low (inputs : List (List SerialReceiveData)) : Prop :=
  ∃ msg ∈ latest inputs, (msg.hp.toNat : ℚ) < 300

/-- The health in the last message is high enough. -/
def High (inputs : List (List SerialReceiveData)) : Prop :=
  ∃ msg ∈ latest inputs, ¬(msg.hp.toNat : ℚ) < 300

/-- After a tick with low health, the patrol branch is still. -/
theorem still_of_low (env : Env) (homePosition : PoseStamped)
    (zoneModeTopic frontPatrolCsv : String) {inputs : List (List SerialReceiveData)}
    (hne : inputs ≠ []) (h : Low inputs) :
    Still .patrol
      ((State.init homePosition zoneModeTopic frontPatrolCsv).run env inputs).2.tree := by
  obtain ⟨earlier, msgs, rfl⟩ : ∃ earlier msgs, inputs = earlier ++ [msgs] :=
    ⟨_, _, (List.dropLast_concat_getLast hne).symm⟩
  obtain ⟨msg, hmsg, hlow⟩ := h
  obtain ⟨root, phase, htree⟩ := init_tree env homePosition zoneModeTopic frontPatrolCsv earlier
  have hobeys := obeys_iterate env htree
    (init_deliver env homePosition zoneModeTopic frontPatrolCsv hmsg)
  rw [Obeys, if_pos hlow] at hobeys
  rw [State.run_append]
  exact hobeys.1

/-- Entering the patrol branch takes the first waypoint of the file. -/
theorem firstGoal_iterate {env : Env} {content : List Char} {s : State} {root : Status}
    {phase : Phase} {msg : SerialReceiveData} {msgs : List SerialReceiveData}
    (hfile : ∀ k, env.file k s.world.board.frontPatrolCsv = some content)
    (htree : s.tree = phase.tree root) (hphase : phase = .idle ∨ phase = .home)
    (hmsg : (s.world.deliver msgs).writer = .callback msg) (hhigh : ¬(msg.hp.toNat : ℚ) < 300)
    (hpos : 0 < (reachable (route env.stod "map" content)).length) :
    firstGoal (s.iterate env msgs).1 =
      some (Tour.start (reachable (route env.stod "map" content)) hpos).current := by
  obtain ⟨root', hiter⟩ := State.iterate_tree env htree msgs
  have hmove := move_message env phase (w := s.world.deliver msgs)
    (by rw [hmsg]; rfl)
  have hhp : ¬(s.world.deliver msgs).writer.hp < 300 := by
    rw [hmsg]
    exact hhigh
  have hentry : patrolNodeMove env (s.world.deliver msgs).writeToBlackboard.2 phase =
      patrolMove env (s.world.deliver msgs).writeToBlackboard.2 := by
    rcases hphase with rfl | rfl <;> rfl
  have hcsv : (s.world.deliver msgs).writeToBlackboard.2.board.frontPatrolCsv =
      s.world.board.frontPatrolCsv := by
    have hwrite := (tick_effect env .writeToBlackboard .idle
      (s.world.deliver msgs)).frontPatrolCsv
    rw [World.deliver_eq] at hwrite ⊢
    exact hwrite
  rw [hiter, hmove, if_neg hhp, hentry]
  exact (firstGoal_append (by simp [goalTaken]) _).trans
    ((patrolMove_of_file (hcsv ▸ hfile)).2 hpos)

instance (inputs : List (List SerialReceiveData)) : Decidable (Low inputs) :=
  decidable_of_iff ((latest inputs).any fun msg => (msg.hp.toNat : ℚ) < 300) (by
    cases h : latest inputs <;> simp [Low, h])

instance (inputs : List (List SerialReceiveData)) : Decidable (High inputs) :=
  decidable_of_iff ((latest inputs).any fun msg => ¬(msg.hp.toNat : ℚ) < 300) (by
    cases h : latest inputs <;> simp [High, h])

/-- The patrol branch is running, on a file that stays the same, when low health interrupts
    it, for some ticks, until it is entered again: the first goal taken then is the waypoint
    that was current just when that is the first one of the file. -/
theorem resumes_iff (env : Env) (homePosition : PoseStamped)
    (zoneModeTopic frontPatrolCsv : String) (content : List Char)
    (before low : List (List SerialReceiveData)) (back : List SerialReceiveData)
    (hfile : ∀ k, env.file k frontPatrolCsv = some content)
    (hactive : ¬Still .patrol
      ((State.init homePosition zoneModeTopic frontPatrolCsv).run env before).2.tree)
    (hlow : low ≠ [] ∧ ∀ k < low.length, Low (before ++ low.take (k + 1)))
    (hback : High (before ++ low ++ [back])) :
    let start := State.init homePosition zoneModeTopic frontPatrolCsv
    ∃ (i : ℕ) (current first : PoseStamped),
      (start.run env before).2.world.board.frontWpIdx = some (i : ℤ) ∧
      (route env.stod "map" content)[i]? = some current ∧
      (route env.stod "map" content)[0]? = some first ∧
      (firstGoal ((start.run env (before ++ low)).2.iterate env back).1 = some current ↔
        current = first) := by
  intro start
  obtain ⟨root, phase, htree, htour⟩ := State.run_onTour (s := start) hfile
    (State.tree_init homePosition zoneModeTopic frontPatrolCsv)
    (fun hpatrol => absurd rfl hpatrol.1) before
  have hpatrol : phase.Patrolling := by
    rw [htree, still_patrol, not_or] at hactive
    exact hactive
  obtain ⟨t, ht⟩ := htour hpatrol
  have hpos : 0 < (reachable (route env.stod "map" content)).length := ht.stops ▸ t.index.pos
  have hstill : Still .patrol (start.run env (before ++ low)).2.tree := by
    refine still_of_low env homePosition zoneModeTopic frontPatrolCsv (by simp [hlow.1]) ?_
    have hlast := hlow.2 (low.length - 1) (by have := List.length_pos_iff.2 hlow.1; omega)
    rwa [List.take_of_length_le (by omega)] at hlast
  obtain ⟨root', phase', htree'⟩ :=
    init_tree env homePosition zoneModeTopic frontPatrolCsv (before ++ low)
  rw [htree', still_patrol] at hstill
  obtain ⟨msg, hmsg, hhigh⟩ := hback
  have hcsv := (State.run_world env start (before ++ low)).2.2.1
  have hgoal := firstGoal_iterate (hcsv ▸ hfile) htree' hstill
    (init_deliver env homePosition zoneModeTopic frontPatrolCsv hmsg) hhigh hpos
  -- the tour at the interruption is at `t.index`, the one that the load starts at 0
  refine ⟨t.index, t.current, _, ht.idx, getElem?_of_stops ht.stops,
    getElem?_of_stops (t := .start _ hpos) rfl, ?_⟩
  rw [hgoal, Option.some_inj]
  exact eq_comm

/-- Two waypoints, and a robot that stays at the first one. -/
def stayEnv : Env := { twoEnv with lookupTransform := fun _ => some (1, 0) }

/-- The robot is interrupted on its way to the first waypoint. -/
theorem resumes_iff_first :
    let start := State.init ⟨"map", ⟨⟨0, 0, 0⟩, ⟨0, 0, 0, 1⟩⟩⟩ "" ""
    let content := ((twoEnv.file 0 "").getD [])
    ∃ (i : ℕ) (current first : PoseStamped),
      (start.run stayEnv [[{ hp := 400 }]]).2.world.board.frontWpIdx = some (i : ℤ) ∧
      (route stayEnv.stod "map" content)[i]? = some current ∧
      (route stayEnv.stod "map" content)[0]? = some first ∧
      (firstGoal ((start.run stayEnv ([[{ hp := 400 }]] ++ [[{ hp := 200 }]])).2.iterate stayEnv
        [{ hp := 400 }]).1 = some current ↔ current = first) :=
  resumes_iff stayEnv ⟨"map", ⟨⟨0, 0, 0⟩, ⟨0, 0, 0, 1⟩⟩⟩ "" "" ((twoEnv.file 0 "").getD [])
    [[{ hp := 400 }]] [[{ hp := 200 }]] [{ hp := 400 }] (fun _ => rfl) (by decide +kernel)
    (by decide +kernel) (by decide +kernel)

/-- The robot reaches the first waypoint, and it is interrupted on its way to the second one:
    it is sent to the first one again. -/
theorem not_resumes_second :
    ¬∀ env homePosition zoneModeTopic frontPatrolCsv content before low back,
      (∀ k, env.file k frontPatrolCsv = some content) →
      ¬Still .patrol
        ((State.init homePosition zoneModeTopic frontPatrolCsv).run env before).2.tree →
      (low ≠ [] ∧ ∀ k < low.length, Low (before ++ low.take (k + 1))) →
      High (before ++ low ++ [back]) →
      ∀ (i : ℕ) current,
        ((State.init homePosition zoneModeTopic frontPatrolCsv).run env
          before).2.world.board.frontWpIdx = some (i : ℤ) →
        (route env.stod "map" content)[i]? = some current →
        firstGoal (((State.init homePosition zoneModeTopic frontPatrolCsv).run env
          (before ++ low)).2.iterate env back).1 = some current := by
  intro h
  have hgoal := h stayEnv ⟨"map", ⟨⟨0, 0, 0⟩, ⟨0, 0, 0, 1⟩⟩⟩ "" "" ((twoEnv.file 0 "").getD [])
    [[{ hp := 400 }], [], []] [[{ hp := 200 }]] [{ hp := 400 }] (fun _ => rfl)
    (by decide +kernel) (by decide +kernel) (by decide +kernel) 1
    ⟨"map", ⟨⟨2, 0, 0⟩, ⟨0, 0, 0, 1⟩⟩⟩ (by decide +kernel) (by decide +kernel)
  revert hgoal
  decide +kernel

end Sentry.Behavior
