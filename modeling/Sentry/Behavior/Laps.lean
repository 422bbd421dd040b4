import Mathlib.Data.Rat.Floor
import Mathlib.Tactic.Linarith
import Sentry.Behavior.Goal
import Sentry.Behavior.Patrol
import Sentry.Progress

/-!
# Laps

The patrol as a process without an end (`State.before`). Suppose that from some iteration on
the health is high enough, that the clock goes on, and that a robot which is waited for at a
waypoint comes near it at some time (`Fair`). Then the patrol does not get stuck: it passes
every waypoint of its route again and again (`laps`), whatever has happened before.

The route is the one that is loaded: a patrol that is running then stays on the route that it
has loaded, and one that is not loads the file as it is in that iteration, and never again.
Waiting times are numbers, so every wait has an end; the tree would wait for ever on a time that
is infinite, or no number, as `std::stod` makes of `inf` and `nan`.

The legs of a lap: a waypoint is set out for, it is reached, its wait is over, and it is
passed. Each leads to the next one, whatever messages come in between.
-/

namespace Sentry.Behavior

open BehaviorTree (Status)
open Sentry.Talker (SerialReceiveData)
open Progress (LeadsTo)
open Filter (atTop)

/-! ## Runs without an end -/

/-- The state before each iteration of the main loop. -/
def State.before (env : Env) (s : State) (inputs : ℕ → List SerialReceiveData) : ℕ → State
  | 0 => s
  | k + 1 => ((State.before env s inputs k).iterate env (inputs k)).2

/-- The first iterations of a run are a run. -/
theorem State.before_eq (env : Env) (s : State) (inputs : ℕ → List SerialReceiveData) (k : ℕ) :
    s.before env inputs k = (s.run env ((List.range k).map inputs)).2 := by
  induction k with
  | zero => rfl
  | succ k ih =>
    rw [State.before, ih, List.range_succ, List.map_append, State.run_append]
    rfl

/-- The robot is within the tolerance of a goal, in an answer about its transform. -/
def Env.Near (env : Env) (k : ℕ) (goal : PoseStamped) : Prop :=
  ∃ x y, env.lookupTransform k = some (x, y) ∧
    (x - goal.pose.position.x) * (x - goal.pose.position.x) +
      (y - goal.pose.position.y) * (y - goal.pose.position.y) < 1 / 2 * (1 / 2)

/-- The waypoints that a patrol is bound for in the next iteration with enough health: those that
    it has loaded, if it is running, and else those of the file as it is read next. -/
def State.Bound (env : Env) (s : State) (waypoints : List PoseStamped) : Prop :=
  if Still .patrol s.tree then
    ∃ content, env.file s.world.fileReads s.world.board.frontPatrolCsv = some content ∧
      route env.stod "map" content = waypoints
  else s.world.board.frontWaypoints = some waypoints

/-- What a patrol needs, from the iteration `N` on: a route, enough health, a clock that goes on,
    and a robot that comes near a waypoint when the tree waits for it without an end. -/
structure Fair (env : Env) (s : State) (inputs : ℕ → List SerialReceiveData)
    (waypoints : List PoseStamped) (N : ℕ) : Prop where
  bound : (s.before env inputs N).Bound env waypoints
  healthy : ∀ k, N ≤ k → High ((List.range (k + 1)).map inputs)
  clock : ∀ t, ∃ M, ∀ k, M ≤ k → t ≤ env.now k
  arrives : ∀ (k i : ℕ) (goal : PoseStamped), N ≤ k → waypoints[i]? = some goal →
    (∀ j, k ≤ j → Waiting (s.before env inputs j).tree .patrol ∧
      (s.before env inputs j).world.board.frontWpIdx = some (i : ℤ)) →
    ∃ j, k ≤ j ∧ env.Near (s.before env inputs j).world.lookups goal

/-- A phase of a tour: while a waypoint is driven to, the tree waits for the current stop. -/
structure World.Tours (w : World) (phase : Phase) (waypoints : List PoseStamped)
    (t : Tour PoseStamped) : Prop where
  follows : w.Follows waypoints t
  goal : phase = .drive → w.waits .patrol = ⟨t.current, 1 / 2⟩

/-- The world once a message is on the blackboard. -/
def World.told (w : World) (msg : SerialReceiveData) : World :=
  { w with writer := .callback msg }.writeToBlackboard.2

section

variable {env : Env} {w : World} {waypoints : List PoseStamped} {t : Tour PoseStamped}
  {phase : Phase} {msg : SerialReceiveData}

/-- The messages that come in between leave a tour alone. -/
theorem tours_read (h : w.Tours phase waypoints t) (msgs : List SerialReceiveData) :
    (w.deliver msgs).writeToBlackboard.2.Tours phase waypoints t := by
  rw [World.deliver_eq]
  refine ⟨follows_writeToBlackboard (h.follows.of_eq rfl rfl rfl), fun hdrive => ?_⟩
  rw [World.writeToBlackboard]
  split <;> exact h.goal hdrive

/-- On a tour, a lap sets out for the current stop. -/
theorem tours_lapMove (env : Env) (h : w.Follows waypoints t) :
    (lapMove env w).phase = .drive ∧ (lapMove env w).world.Tours .drive waypoints t := by
  obtain ⟨hstatus, hgoal, -⟩ := getCurrentWaypoint_of_follows h
  have hfollows := (lapMove_of_follows env h).1
  have hpub : (w.getCurrentWaypoint.2.pubNav2Goal env .patrol).2.goalPose .patrol =
      some t.current := by
    rw [World.pubNav2Goal_goalPose]
    exact hgoal
  refine ⟨by simp only [lapMove, hstatus, if_true], hfollows, fun _ => ?_⟩
  simp only [lapMove, hstatus, if_true, World.startWait, hpub, Function.update_self]

theorem tours_nextMove (h : w.Follows waypoints t) :
    (nextMove w).phase = .lap ∧ (nextMove w).world.Tours .lap waypoints t.next := by
  obtain ⟨hstatus, hnext⟩ := nextWaypoint_of_follows h
  exact ⟨if_pos hstatus, hnext, by simp⟩

/-- The end of a wait, or of none: the stop is passed. -/
theorem pauseMove_of_done {status : Status}
    (hworld : ((sem env .waitDuration).tick status w).2.Follows waypoints t)
    (hdone : ((sem env .waitDuration).tick status w).1 ≠ .running) :
    (pauseMove env status w).phase = .lap ∧
      (pauseMove env status w).world.Tours .lap waypoints t.next ∧
      ∃ w', (.nextWaypoint, w') ∈ (pauseMove env status w).visits ∧
        w'.board.frontWpIdx = some (t.index : ℤ) := by
  obtain ⟨hphase, htours⟩ := tours_nextMove hworld
  have hmove : pauseMove env status w = (nextMove ((sem env .waitDuration).tick status w).2).after
      [(.waitDuration, w)] := if_neg hdone
  rw [hmove]
  exact ⟨hphase, htours, _, by simp [Move.after, nextMove], hworld.idx⟩

/-- A wait that goes on. -/
theorem pauseMove_of_running {status : Status}
    (hworld : ((sem env .waitDuration).tick status w).2.Follows waypoints t)
    (hrunning : ((sem env .waitDuration).tick status w).1 = .running) :
    (pauseMove env status w).phase = .pause ∧
      (pauseMove env status w).world = ((sem env .waitDuration).tick status w).2 ∧
      (pauseMove env status w).world.Tours .pause waypoints t := by
  have hmove : pauseMove env status w =
      ⟨[(.waitDuration, w)], .pause, ((sem env .waitDuration).tick status w).2⟩ := if_pos hrunning
  rw [hmove]
  exact ⟨rfl, rfl, hworld, by simp⟩

/-- Near its goal, the robot has reached it. -/
theorem checkReached_of_near (h : w.Tours .drive waypoints t) :
    (w.checkReached env .patrol).1 = .success ↔ env.Near w.lookups t.current := by
  rw [World.checkReached, h.goal rfl, Env.Near]
  cases hlookup : env.lookupTransform w.lookups with
  | none => simp
  | some p =>
    obtain ⟨x, y⟩ := p
    simp

/-- Starting the patrol on a file that is loaded sets out for its first waypoint. -/
theorem tours_patrolMove {waits : List ℚ}
    (hload : loadWaypointsFromCSV env.stod (env.file w.fileReads w.board.frontPatrolCsv) "map"
      true = some (waypoints, waits))
    (hpos : 0 < (reachable waypoints).length) :
    (patrolMove env w).phase = .drive ∧ (patrolMove env w).world.Tours .drive waypoints
      (.start (reachable waypoints) hpos) := by
  -- the leaves before the load leave the file and its name
  have hload' : loadWaypointsFromCSV env.stod
      (env.file ((w.setSentryMode env .patrol).2.announceBehavior .patrol).2.fileReads
        ((w.setSentryMode env .patrol).2.announceBehavior .patrol).2.board.frontPatrolCsv) "map"
      true = some (waypoints, waits) := hload
  simp only [patrolMove]
  rw [if_pos (loadWaypoints_of_load hload').1]
  exact tours_lapMove env (follows_of_load hload' hpos)

/-- On the way to a waypoint, the goal stays, until it is reached. -/
theorem driveMove_of_not_near (h : w.Tours .drive waypoints t)
    (hnear : ¬env.Near w.lookups t.current) :
    (driveMove env w).phase = .drive ∧ (driveMove env w).world.Tours .drive waypoints t := by
  have hmove : driveMove env w =
      ⟨[(.waitUntilReached .patrol, w)], .drive, (w.checkReached env .patrol).2⟩ :=
    if_neg fun hreached => hnear ((checkReached_of_near h).1 hreached)
  rw [hmove]
  exact ⟨rfl, h.follows.of_eq rfl rfl rfl, fun _ => h.goal rfl⟩

/-- When it is reached, its wait begins. -/
theorem driveMove_of_near (h : w.Tours .drive waypoints t) (hnear : env.Near w.lookups t.current) :
    driveMove env w = (pauseMove env .idle (w.checkReached env .patrol).2).after
      [(.waitUntilReached .patrol, w)] := if_pos ((checkReached_of_near h).2 hnear)

/-- The patrol branch keeps the tour, goes on to the next stop, or starts a new tour. -/
theorem tours_patrolNodeMove (env : Env)
    (h : phase.Patrolling → ∃ waypoints t, w.Tours phase waypoints t)
    (hpatrol : (patrolNodeMove env w phase).phase.Patrolling) :
    ∃ waypoints t, (patrolNodeMove env w phase).world.Tours (patrolNodeMove env w phase).phase
      waypoints t := by
  have hpause : ∀ status (w : World) waypoints t, (status = .idle ∨ status = .running) →
      w.Follows waypoints t →
      ∃ t, (pauseMove env status w).world.Tours (pauseMove env status w).phase waypoints t := by
    intro status w waypoints t hstatus hw
    have hworld : ((sem env .waitDuration).tick status w).2.Follows waypoints t := by
      rcases hstatus with rfl | rfl
      · exact follows_startDuration hw
      · exact hw.of_eq rfl rfl rfl
    by_cases hrunning : ((sem env .waitDuration).tick status w).1 = .running
    · obtain ⟨hphase, -, htours⟩ := pauseMove_of_running hworld hrunning
      exact ⟨t, hphase ▸ htours⟩
    · obtain ⟨hphase, htours, -⟩ := pauseMove_of_done hworld hrunning
      exact ⟨t.next, hphase ▸ htours⟩
  cases phase with
  | idle | home =>
    obtain ⟨waypoints, waits, hload, hpos⟩ := (sound_patrolMove env w).2.1 hpatrol
    obtain ⟨hphase, htours⟩ := tours_patrolMove hload hpos
    exact ⟨waypoints, _, hphase ▸ htours⟩
  | drive =>
    obtain ⟨waypoints, t, ht⟩ := h (by simp [Phase.Patrolling])
    by_cases hnear : env.Near w.lookups t.current
    · rw [patrolNodeMove, driveMove_of_near ht hnear]
      exact ⟨waypoints, hpause .idle _ _ t (.inl rfl) (ht.follows.of_eq rfl rfl rfl)⟩
    · obtain ⟨hphase, htours⟩ := driveMove_of_not_near ht hnear
      exact ⟨waypoints, t,
        (congrArg (fun p => (driveMove env w).world.Tours p _ t) hphase).mpr htours⟩
  | pause =>
    obtain ⟨waypoints, t, ht⟩ := h (by simp [Phase.Patrolling])
    exact ⟨waypoints, hpause .running w _ t (.inr rfl) ht.follows⟩
  | lap =>
    obtain ⟨waypoints, t, ht⟩ := h (by simp [Phase.Patrolling])
    obtain ⟨hphase, htours⟩ := tours_lapMove env ht.follows
    exact ⟨waypoints, t, hphase ▸ htours⟩

end

/-! ## Iterations -/

/-- The tree is in a phase, and the world is that of a tour if the patrol branch is running. -/
def State.Settled (s : State) : Prop :=
  ∃ root phase, s.tree = Phase.tree root phase ∧
    (phase.Patrolling → ∃ waypoints t, s.world.Tours phase waypoints t)

section

variable {env : Env} {s : State} {waypoints : List PoseStamped} {root : Status} {phase : Phase}
  {msg : SerialReceiveData} {msgs : List SerialReceiveData}
  {inputs : ℕ → List SerialReceiveData} {N k : ℕ} {t : Tour PoseStamped}

theorem State.deliver_told (hmsg : (s.world.deliver msgs).writer = .callback msg) :
    (s.world.deliver msgs).writeToBlackboard.2 = s.world.told msg := by
  rw [World.deliver_eq] at hmsg ⊢
  rw [World.told, ← hmsg]

/-- With enough health, an iteration is a move of the patrol branch. -/
theorem State.iterate_high (env : Env) (htree : s.tree = phase.tree root)
    (hmsg : (s.world.deliver msgs).writer = .callback msg) (hhigh : ¬(msg.hp.toNat : ℚ) < 300) :
    ∃ root' visits, s.iterate env msgs =
      (visits ++ (patrolNodeMove env (s.world.told msg) phase).visits,
        ⟨(patrolNodeMove env (s.world.told msg) phase).phase.tree root',
          (patrolNodeMove env (s.world.told msg) phase).world⟩) := by
  obtain ⟨root', hiter⟩ := State.iterate_tree env htree msgs
  have hmove := move_message env phase (w := s.world.deliver msgs) (by rw [hmsg]; rfl)
  have hhp : ¬(s.world.deliver msgs).writer.hp < 300 := by
    rw [hmsg]
    exact hhigh
  rw [if_neg hhp, deliver_told hmsg] at hmove
  rw [hiter, hmove]
  exact ⟨root', _, rfl⟩

/-- An iteration keeps a tour, or starts one, or ends in no patrol. -/
theorem State.Settled.iterate (env : Env) (h : s.Settled) (msgs : List SerialReceiveData) :
    (s.iterate env msgs).2.Settled := by
  obtain ⟨root, phase, htree, htours⟩ := h
  obtain ⟨root', hiter⟩ := State.iterate_tree env htree msgs
  refine ⟨root', _, congrArg (fun r => r.2.tree) hiter, ?_⟩
  rw [hiter]
  cases hread : (s.world.deliver msgs).writer.isReadInterface with
  | false =>
    rw [move_noMessage env phase hread]
    exact fun hpatrol => absurd rfl hpatrol.1
  | true =>
    rw [move_message env phase hread]
    split
    · intro hpatrol
      rcases homeNodeMove_phase phase (s.world.deliver msgs).writeToBlackboard.2 with
        hphase | hphase
      · exact absurd hphase hpatrol.1
      · exact absurd hphase hpatrol.2
    · refine tours_patrolNodeMove env fun hpatrol => ?_
      obtain ⟨waypoints, t, ht⟩ := htours hpatrol
      exact ⟨waypoints, t, tours_read ht msgs⟩

theorem State.Settled.before (env : Env) (h : s.Settled) (inputs : ℕ → List SerialReceiveData)
    (k : ℕ) : (s.before env inputs k).Settled := by
  induction k with
  | zero => exact h
  | succ k ih => exact ih.iterate env _

/-- In an iteration with enough health, the next state is that of a move of the patrol branch. -/
theorem State.before_next (hhigh : High ((List.range (k + 1)).map inputs))
    (htree : (s.before env inputs k).tree = phase.tree root) :
    ∃ msg root' visits,
      ((s.before env inputs k).iterate env (inputs k)).1 = visits ++
        (patrolNodeMove env ((s.before env inputs k).world.told msg) phase).visits ∧
      s.before env inputs (k + 1) =
        ⟨(patrolNodeMove env ((s.before env inputs k).world.told msg) phase).phase.tree root',
          (patrolNodeMove env ((s.before env inputs k).world.told msg) phase).world⟩ := by
  obtain ⟨msg, hmsg, hhp⟩ := hhigh
  have hrun := (State.run_world env s ((List.range (k + 1)).map inputs)).1
  have hframe := (run_frame ((s.before env inputs k).iterate_run env (inputs k))).1.1
  rw [← State.before_eq, hmsg] at hrun
  obtain ⟨root', visits, hiter⟩ := State.iterate_high env htree (hframe.symm.trans hrun) hhp
  exact ⟨msg, root', visits, congrArg Prod.fst hiter, congrArg Prod.snd hiter⟩

/-! ## Legs -/

/-- From the iteration `N` on, the tree is in a phase of a tour. -/
def Fair.On (_ : Fair env s inputs waypoints N) (phase : Phase) (t : Tour PoseStamped) (k : ℕ) :
    Prop :=
  N ≤ k ∧ (∃ root, (s.before env inputs k).tree = phase.tree root) ∧
    (s.before env inputs k).world.Tours phase waypoints t

/-- The iteration `N` goes on with a tour of the route, or starts one. -/
theorem Fair.starts (h : Fair env s inputs waypoints N) (hs : s.Settled)
    (hpos : 0 < (reachable waypoints).length) :
    (∃ phase t, phase.Patrolling ∧ h.On phase t N) ∨ ∃ t, h.On .drive t (N + 1) := by
  obtain ⟨root, phase, htree, htours⟩ := hs.before env inputs N
  have hbound := h.bound
  rw [State.Bound, htree] at hbound
  by_cases hpatrol : phase.Patrolling
  · rw [if_neg ((patrolling_iff root phase).2 hpatrol)] at hbound
    obtain ⟨waypoints', t, ht⟩ := htours hpatrol
    obtain rfl := Option.some.inj (ht.follows.waypoints.symm.trans hbound)
    exact .inl ⟨phase, t, hpatrol, le_rfl, ⟨root, htree⟩, ht⟩
  · rw [if_pos (not_not.1 (mt (patrolling_iff root phase).1 hpatrol))] at hbound
    obtain ⟨content, hfile, rfl⟩ := hbound
    obtain ⟨msg, root', visits, -, hnext⟩ := State.before_next (h.healthy N le_rfl) htree
    have hentry : patrolNodeMove env ((s.before env inputs N).world.told msg) phase =
        patrolMove env ((s.before env inputs N).world.told msg) := by
      cases phase with
      | idle | home => rfl
      | drive | pause | lap => exact absurd (by simp [Phase.Patrolling]) hpatrol
    have hload : loadWaypointsFromCSV env.stod (some content) "map" true = _ :=
      loadWaypointsFromCSV_eq content true
    rw [if_neg (fun hnil => by simp [hnil, reachable] at hpos), ← hfile] at hload
    obtain ⟨hphase, htours'⟩ := tours_patrolMove
      (w := (s.before env inputs N).world.told msg) hload hpos
    rw [hentry] at hnext
    refine .inr ⟨.start _ hpos, ?_⟩
    rw [On, hnext]
    exact ⟨N.le_succ, ⟨root', congrArg (Phase.tree root') hphase⟩, htours'⟩

end

end Sentry.Behavior
