import Sentry.Behavior.WaypointFile
import Sentry.Tour

/-!
# The route on the blackboard

The nodes `LoadWaypoints`, `GetCurrentWaypoint` and `NextWaypoint` share four entries of
the blackboard. After a successful load the entries are those of a tour of the waypoints
(`World.Follows`), and every tick of the three nodes keeps them so: in any run, the tour
is as far from its first stop as there were ticks of `NextWaypoint` since the last
successful load (`ride_safe`).

The number of the waypoints is converted to an `int`. Where that changes it, the tour is
of the waypoints up to the converted number, if it is positive.
-/

namespace Sentry.Behavior

open BehaviorTree (Status)

/-! ## Sizes -/

theorem toInt32_eq {n : ℕ} (h : n < 2 ^ 31) : toInt32 n = n := by
  have hnat : (BitVec.ofNat 32 n).toNat = n := by
    rw [BitVec.toNat_ofNat]
    omega
  rw [toInt32, BitVec.toInt_eq_toNat_cond, hnat, if_pos (by omega)]

theorem toInt32_le (n : ℕ) : toInt32 n ≤ n := by
  have h := BitVec.toInt_eq_toNat_cond (BitVec.ofNat 32 n)
  have hle : (BitVec.ofNat 32 n).toNat ≤ n := by
    rw [BitVec.toNat_ofNat]
    exact Nat.mod_le _ _
  rw [toInt32, h]
  split <;> omega

/-- The waypoints that the index can reach. -/
def reachable (waypoints : List PoseStamped) : List PoseStamped :=
  waypoints.take (toInt32 waypoints.length).toNat

theorem length_reachable (waypoints : List PoseStamped) :
    (reachable waypoints).length = (toInt32 waypoints.length).toNat := by
  have := toInt32_le waypoints.length
  rw [reachable, List.length_take]
  omega

theorem reachable_eq {waypoints : List PoseStamped} (h : waypoints.length < 2 ^ 31) :
    reachable waypoints = waypoints := by
  rw [reachable, toInt32_eq h, Int.toNat_natCast, List.take_length]

theorem getElem?_reachable {waypoints : List PoseStamped} {i : ℕ}
    (h : i < (reachable waypoints).length) : (reachable waypoints)[i]? = waypoints[i]? := by
  rw [length_reachable] at h
  rw [reachable, List.getElem?_take_of_lt h]

/-! ## Tours -/

/-- The entries of the blackboard are those of a tour of some waypoints. -/
structure World.Follows (w : World) (waypoints : List PoseStamped) (t : Tour PoseStamped) :
    Prop where
  stops : t.stops = reachable waypoints
  waypoints : w.board.frontWaypoints = some waypoints
  total : w.board.frontTotalWaypoints = some (t.stops.length : ℤ)
  idx : w.board.frontWpIdx = some (t.index : ℤ)

section

variable {env : Env} {w : World} {waypoints : List PoseStamped} {waits : List ℚ}
  {t : Tour PoseStamped}

/-- The size of the waypoints is the number of the stops, as an `int`. -/
theorem World.Follows.toInt32_length (h : w.Follows waypoints t) :
    toInt32 waypoints.length = t.stops.length := by
  have hpos : 0 < t.stops.length := t.index.pos
  have hlength := length_reachable waypoints
  rw [← h.stops] at hlength
  omega

/-- The stop of a tour of what the index can reach is the waypoint at its index. -/
theorem getElem?_of_stops (h : t.stops = reachable waypoints) :
    waypoints[(t.index : ℕ)]? = some t.current := by
  have hstop : ∀ i < t.stops.length, waypoints[i]? = t.stops[i]? := fun i hi => by
    rw [h] at hi ⊢
    exact (getElem?_reachable hi).symm
  exact (hstop t.index t.index.isLt).trans t.getElem?_index

/-- A load that fails leaves the blackboard alone. -/
theorem loadWaypoints_of_fail
    (h : loadWaypointsFromCSV env.stod (env.file w.fileReads w.board.frontPatrolCsv) "map" true =
      none) :
    w.loadWaypoints env = (.failure, { w with fileReads := w.fileReads + 1 }) := by
  simp [World.loadWaypoints, h]

/-- A load that succeeds sets the entries. -/
theorem loadWaypoints_of_load
    (h : loadWaypointsFromCSV env.stod (env.file w.fileReads w.board.frontPatrolCsv) "map" true =
      some (waypoints, waits)) :
    (w.loadWaypoints env).1 = .success ∧
      (w.loadWaypoints env).2.board.frontWaypoints = some waypoints ∧
      (w.loadWaypoints env).2.board.frontTotalWaypoints = some (toInt32 waypoints.length) ∧
      (w.loadWaypoints env).2.board.frontWpIdx = some 0 := by
  simp [World.loadWaypoints, h]

/-- A load that succeeds starts a tour. -/
theorem follows_of_load
    (h : loadWaypointsFromCSV env.stod (env.file w.fileReads w.board.frontPatrolCsv) "map" true =
      some (waypoints, waits)) (hpos : 0 < (reachable waypoints).length) :
    (w.loadWaypoints env).2.Follows waypoints (.start (reachable waypoints) hpos) := by
  obtain ⟨-, hwaypoints, htotal, hidx⟩ := loadWaypoints_of_load h
  have hlength := length_reachable waypoints
  refine ⟨rfl, hwaypoints, htotal.trans (congrArg some ?_), hidx⟩
  rw [Tour.start_stops]
  omega

/-- On a tour, `GetCurrentWaypoint` takes the current stop. -/
theorem getCurrentWaypoint_of_follows (h : w.Follows waypoints t) :
    w.getCurrentWaypoint.1 = .success ∧
      w.getCurrentWaypoint.2.board.frontCurrentGoal = some t.current ∧
      w.getCurrentWaypoint.2.Follows waypoints t := by
  have hrange : ¬((t.index : ℤ) < 0 ∨ toInt32 waypoints.length ≤ (t.index : ℤ)) := by
    have := t.index.isLt
    have := h.toInt32_length
    omega
  have hgoal := getElem?_of_stops h.stops
  have htick : w.getCurrentWaypoint.1 = .success ∧
      w.getCurrentWaypoint.2.board.frontCurrentGoal = some t.current ∧
      w.getCurrentWaypoint.2.board.frontWaypoints = w.board.frontWaypoints ∧
      w.getCurrentWaypoint.2.board.frontTotalWaypoints = w.board.frontTotalWaypoints ∧
      w.getCurrentWaypoint.2.board.frontWpIdx = w.board.frontWpIdx := by
    simp [World.getCurrentWaypoint, h.waypoints, h.idx, hrange, hgoal]
  obtain ⟨hstatus, hcurrent, hwaypoints, htotal, hidx⟩ := htick
  exact ⟨hstatus, hcurrent, h.stops, hwaypoints.trans h.waypoints, htotal.trans h.total,
    hidx.trans h.idx⟩

/-- On a tour, `NextWaypoint` goes on to the next stop. -/
theorem nextWaypoint_of_follows (h : w.Follows waypoints t) :
    w.nextWaypoint.1 = .success ∧ w.nextWaypoint.2.Follows waypoints t.next := by
  have hidx : ((t.index : ℤ) + 1).tmod t.stops.length = (t.next.index : ℕ) := by
    rw [Int.tmod_eq_emod_of_nonneg (by omega), Tour.next_index]
    push_cast
    rfl
  refine ⟨by simp [World.nextWaypoint, h.idx, h.total], h.stops, ?_, ?_, ?_⟩ <;>
    simp [World.nextWaypoint, h.idx, h.total, h.waypoints, hidx]

end

/-! ## Rides -/

/-- The nodes about the route. -/
inductive RouteNode
  | loadWaypoints
  | getCurrentWaypoint
  | nextWaypoint
  deriving DecidableEq

/-- The world along some ticks of these nodes, with the waypoints of the last successful
    load, and the number of ticks of `NextWaypoint` since. -/
structure Ride where
  world : World
  waypoints : List PoseStamped := []
  passed : ℕ := 0

namespace Ride

/-- A tick of a node. -/
def tick (env : Env) (r : Ride) : RouteNode → Ride
  | .loadWaypoints =>
    match loadWaypointsFromCSV env.stod (env.file r.world.fileReads r.world.board.frontPatrolCsv)
      "map" true with
    | none => { r with world := (r.world.loadWaypoints env).2 }
    | some (waypoints, _) => ⟨(r.world.loadWaypoints env).2, waypoints, 0⟩
  | .getCurrentWaypoint => { r with world := r.world.getCurrentWaypoint.2 }
  | .nextWaypoint => { r with world := r.world.nextWaypoint.2, passed := r.passed + 1 }

/-- Ticks of some nodes. -/
def run (env : Env) (r : Ride) (nodes : List RouteNode) : Ride := nodes.foldl (tick env) r

/-- The entries of the blackboard are in order: the index is in range, it is the number of
    waypoints passed, modulo their number, and the next tick of each node is in order. -/
structure Safe (env : Env) (r : Ride) : Prop where
  waypoints : r.world.board.frontWaypoints = some r.waypoints
  total : r.world.board.frontTotalWaypoints = some (r.waypoints.length : ℤ)
  nonempty : 1 ≤ r.waypoints.length
  idx : r.world.board.frontWpIdx = some ((r.passed % r.waypoints.length : ℕ) : ℤ)
  idx_lt : r.passed % r.waypoints.length < r.waypoints.length
  get_success : r.world.getCurrentWaypoint.1 = .success
  get_goal : r.world.getCurrentWaypoint.2.board.frontCurrentGoal =
    r.waypoints[r.passed % r.waypoints.length]?
  /-- `idx + 1` does not overflow, and the division is not by zero. -/
  next : r.passed % r.waypoints.length + 1 < 2 ^ 31 ∧ (r.waypoints.length : ℤ) ≠ 0
  next_success : r.world.nextWaypoint.1 = .success
  load_failure : (r.world.loadWaypoints env).1 ≠ .success →
    (r.world.loadWaypoints env).2.board = r.world.board

/-- The blackboard is that of a tour of the waypoints, as many stops from the first one as
    were passed. -/
structure OnTour (r : Ride) (csv : String) : Prop where
  csv : r.world.board.frontPatrolCsv = csv
  small : r.waypoints.length < 2 ^ 31
  follows : ∃ h, r.world.Follows r.waypoints
    ((Tour.start (reachable r.waypoints) h).after r.passed)

variable {env : Env} {r : Ride} {csv : String}

/-- On a tour, everything is in order. -/
theorem OnTour.safe (h : r.OnTour csv) : r.Safe env := by
  obtain ⟨hpos, hfollows⟩ := h.follows
  have hreach := reachable_eq h.small
  have hlength : (reachable r.waypoints).length = r.waypoints.length := by rw [hreach]
  have hlt : r.passed % r.waypoints.length < r.waypoints.length :=
    Nat.mod_lt _ (hlength ▸ hpos)
  have hsmall := h.small
  obtain ⟨hget, hgoal, -⟩ := getCurrentWaypoint_of_follows hfollows
  have hcurrent := Tour.current_after_start r.passed hpos
  refine
    { waypoints := hfollows.waypoints
      total := by rw [hfollows.total, Tour.after_stops, Tour.start_stops, hlength]
      nonempty := hlength ▸ hpos
      idx := ?_
      idx_lt := hlt
      get_success := hget
      get_goal := ?_
      next := ⟨by omega, by omega⟩
      next_success := (nextWaypoint_of_follows hfollows).1
      load_failure := fun hfail => ?_ }
  · rw [hfollows.idx, Tour.index_after_start, hlength]
  · rw [hgoal, ← hcurrent, hreach]
  · cases hload : loadWaypointsFromCSV env.stod
        (env.file r.world.fileReads r.world.board.frontPatrolCsv) "map" true with
    | none => rw [loadWaypoints_of_fail hload]
    | some loaded => exact absurd (loadWaypoints_of_load hload).1 hfail

/-- A load that succeeds starts a tour, of fewer waypoints than an `int` can count. -/
theorem onTour_of_load {waypoints : List PoseStamped} {waits : List ℚ}
    (hcsv : r.world.board.frontPatrolCsv = csv)
    (hload : loadWaypointsFromCSV env.stod
      (env.file r.world.fileReads r.world.board.frontPatrolCsv) "map" true =
        some (waypoints, waits))
    (hsmall : waypoints.length < 2 ^ 31) : (r.tick env .loadWaypoints).OnTour csv := by
  -- a file without waypoints is not loaded
  have hne : waypoints ≠ [] := by
    rintro rfl
    revert hload
    simp only [loadWaypointsFromCSV]
    split
    · simp
    · split
      · simp
      next hne => exact fun h => hne (congrArg Prod.fst (Option.some.inj h))
  have hpos : 0 < (reachable waypoints).length := by
    rw [reachable_eq hsmall]
    exact List.length_pos_iff.2 hne
  have htick : r.tick env .loadWaypoints = ⟨(r.world.loadWaypoints env).2, waypoints, 0⟩ := by
    simp only [tick, hload]
  rw [htick]
  refine ⟨?_, hsmall, hpos, follows_of_load hload hpos⟩
  rw [← hcsv]
  simp [World.loadWaypoints, hload]

/-- Every tick keeps the tour. -/
theorem OnTour.tick (h : r.OnTour csv)
    (hsmall : ∀ k waypoints waits, loadWaypointsFromCSV env.stod (env.file k csv) "map" true =
      some (waypoints, waits) → waypoints.length < 2 ^ 31)
    (node : RouteNode) : (r.tick env node).OnTour csv := by
  obtain ⟨hpos, hfollows⟩ := h.follows
  cases node with
  | loadWaypoints =>
    cases hload : loadWaypointsFromCSV env.stod
        (env.file r.world.fileReads r.world.board.frontPatrolCsv) "map" true with
    | none =>
      -- the file was read, and that is all
      have htick : r.tick env .loadWaypoints =
          { r with world := { r.world with fileReads := r.world.fileReads + 1 } } := by
        simp only [Ride.tick, hload, loadWaypoints_of_fail hload]
      rw [htick]
      exact ⟨h.csv, h.small, hpos,
        ⟨hfollows.stops, hfollows.waypoints, hfollows.total, hfollows.idx⟩⟩
    | some loaded =>
      exact onTour_of_load h.csv hload (hsmall _ _ loaded.2 (h.csv ▸ hload))
  | getCurrentWaypoint =>
    refine ⟨?_, h.small, hpos, (getCurrentWaypoint_of_follows hfollows).2.2⟩
    rw [← h.csv]
    simp only [Ride.tick, World.getCurrentWaypoint]
    split
    · split
      · rfl
      · split <;> rfl
    · rfl
  | nextWaypoint =>
    refine ⟨?_, h.small, hpos, (nextWaypoint_of_follows hfollows).2⟩
    rw [← h.csv]
    simp only [Ride.tick, World.nextWaypoint]
    split <;> rfl

theorem OnTour.run (h : r.OnTour csv)
    (hsmall : ∀ k waypoints waits, loadWaypointsFromCSV env.stod (env.file k csv) "map" true =
      some (waypoints, waits) → waypoints.length < 2 ^ 31)
    (nodes : List RouteNode) : (r.run env nodes).OnTour csv := by
  induction nodes generalizing r with
  | nil => exact h
  | cons node nodes ih => exact ih (h.tick hsmall node)

end Ride

/-- After a first successful load, whatever the three nodes do, in any order, on any
    contents of the file with fewer than `2 ^ 31` waypoints, the entries of the blackboard
    are in order. -/
theorem ride_safe (env : Env) (w : World) (hload : (w.loadWaypoints env).1 = .success)
    (hsmall : ∀ k waypoints waits, loadWaypointsFromCSV env.stod
      (env.file k w.board.frontPatrolCsv) "map" true = some (waypoints, waits) →
      waypoints.length < 2 ^ 31)
    (nodes : List RouteNode) :
    (Ride.run env { world := w } (.loadWaypoints :: nodes)).Safe env := by
  have hfirst : (Ride.tick env { world := w } .loadWaypoints).OnTour w.board.frontPatrolCsv := by
    cases hfile : loadWaypointsFromCSV env.stod
        (env.file w.fileReads w.board.frontPatrolCsv) "map" true with
    | none => simp [loadWaypoints_of_fail hfile] at hload
    | some loaded => exact Ride.onTour_of_load rfl hfile (hsmall _ _ loaded.2 hfile)
  exact (Ride.OnTour.run hfirst hsmall nodes).safe

/-- A clock with a millisecond between its readings, and a file with two waypoints. -/
def twoEnv : Env where
  now n := n * 1000000
  lookupTransform _ := none
  file _ _ := some "id,x,y,z,qx,qy,qz,qw\n0,1,0,0,0,0,0,1\n1,2,0,0,0,0,0,1".toList
  stod := leadingDigit

/-- Three waypoints further on, and a waypoint taken. -/
theorem ride_safe_two :
    (Ride.run twoEnv
      { world := { board :=
        { homePosition := ⟨"map", ⟨⟨0, 0, 0⟩, ⟨0, 0, 0, 1⟩⟩⟩
          zoneModeTopic := ""
          frontPatrolCsv := "" } } }
      [.loadWaypoints, .nextWaypoint, .nextWaypoint, .nextWaypoint, .getCurrentWaypoint]).Safe
      twoEnv := by
  refine ride_safe twoEnv _ (by decide +kernel) ?_ _
  intro k waypoints waits hload
  have htwo : (loadWaypointsFromCSV twoEnv.stod (twoEnv.file 0 "") "map" true).map
      (fun loaded => loaded.1.length) = some 2 := by decide +kernel
  have hfile : loadWaypointsFromCSV twoEnv.stod (twoEnv.file 0 "") "map" true =
      some (waypoints, waits) := hload
  rw [hfile] at htwo
  have hlength : waypoints.length = 2 := by simpa using htwo
  omega

end Sentry.Behavior
