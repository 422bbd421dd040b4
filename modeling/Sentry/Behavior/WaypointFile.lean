import Sentry.Behavior.World

/-!
# The waypoint file

What a waypoint file means, and what `loadWaypointsFromCSV` makes of it. A file is a
header and rows; a row declares a waypoint if it has eight columns or more and the seven
of the pose are numbers (`rowPose`), and a waiting time for it (`rowWait`).

The poses that are loaded are those declared, in the order of the rows, whether or not
the waiting times are asked for (`loadWaypointsFromCSV_poses`). The waiting times are
those of the same rows just when all of them are numbers (`waitsAttached_iff`): the pose
of a row is stored before its waiting time is converted.
-/

namespace Sentry.Behavior

/-! ## Rows -/

/-- The pieces of a text between separators, without an empty one at the end. -/
def pieces (sep : Char) (text : List Char) : List (List Char) :=
  let all := text.splitOn sep
  if all.getLast? = some [] then all.dropLast else all

/-- The rows of a file: its lines after the first one. -/
def rows (content : List Char) : List (List Char) := (pieces '\n' content).drop 1

/-- The waypoint a row declares: its columns 1 to 7, if all of them are numbers. -/
def rowPose (stod : List Char → Option ℚ) (frameId : String) (row : List Char) :
    Option PoseStamped :=
  if row ≠ [] ∧ 8 ≤ (pieces ',' row).length then
    match (((pieces ',' row).drop 1).take 7).mapM stod with
    | some [x, y, z, qx, qy, qz, qw] => some ⟨frameId, ⟨⟨x, y, z⟩, ⟨qx, qy, qz, qw⟩⟩⟩
    | _ => none
  else none

/-- The waiting time a row declares in its column 9: 0 if it is missing or empty. -/
def rowWait (stod : List Char → Option ℚ) (row : List Char) : Option ℚ :=
  match (pieces ',' row)[9]? with
  | none => some 0
  | some [] => some 0
  | some field => stod field

/-- The rows that declare a waypoint. -/
def waypointRows (stod : List Char → Option ℚ) (frameId : String) (content : List Char) :
    List (List Char) :=
  (rows content).filter fun row => (rowPose stod frameId row).isSome

/-- The waypoints declared in a file. -/
def route (stod : List Char → Option ℚ) (frameId : String) (content : List Char) :
    List PoseStamped :=
  (rows content).filterMap (rowPose stod frameId)

/-! ## Reading rows -/

variable {stod : List Char → Option ℚ} {frameId : String}

/-- Reading up to separators cuts a text into its pieces. -/
theorem getlines_eq_pieces (sep : Char) (text : List Char) :
    getlines sep text = pieces sep text := by
  induction text with
  | nil => simp [getlines, pieces]
  | cons c text ih =>
    -- the first piece of the rest starts with `c`, unless `c` separates it
    obtain ⟨piece, more, hsplit⟩ := List.exists_cons_of_ne_nil (List.splitOn_ne_nil sep text)
    rw [getlines, ih]
    simp only [pieces, List.splitOn_cons_eq_if_modifyHead, hsplit]
    cases more with
    | nil => by_cases hc : c = sep <;> by_cases hp : piece = [] <;> simp [hc, hp]
    | cons next more =>
      by_cases hc : c = sep <;> by_cases hlast : (next :: more).getLast? = some [] <;>
        simp [hc, hlast]

/-- The tokens of a row with eight columns or more give the pose it declares. -/
theorem poseOfTokens_eq {row : List Char} (hne : row ≠ []) (h : 8 ≤ (pieces ',' row).length) :
    poseOfTokens stod frameId (pieces ',' row) = rowPose stod frameId row := by
  rw [rowPose, if_pos ⟨hne, h⟩]
  generalize pieces ',' row = tokens at h
  match tokens, h with
  | _ :: x :: y :: z :: qx :: qy :: qz :: qw :: _, _ =>
    simp only [poseOfTokens, List.getD_cons_zero, List.getD_cons_succ, List.drop_succ_cons,
      List.drop_zero, List.take_succ_cons, List.take_zero, List.mapM_cons, List.mapM_nil]
    cases stod x <;> cases stod y <;> cases stod z <;> cases stod qx <;> cases stod qy <;>
      cases stod qz <;> cases stod qw <;> rfl

theorem waitOfTokens_eq (row : List Char) :
    waitOfTokens stod (pieces ',' row) = rowWait stod row := by
  rw [waitOfTokens, rowWait, List.getD_eq_getElem?_getD]
  cases hfield : (pieces ',' row)[9]? with
  | none => simp
  | some field =>
    have hlt : 9 < (pieces ',' row).length := (List.getElem?_eq_some_iff.1 hfield).1
    cases field <;> simp [hlt]

/-- The body of the loop stores the pose that a row declares, and then its waiting time, if
    it is asked for and is a number. -/
theorem loadRow_eq (waits : Bool) (acc : List PoseStamped × List ℚ) (row : List Char) :
    loadRow stod frameId waits acc row =
      match rowPose stod frameId row with
      | none => acc
      | some pose =>
        (acc.1 ++ [pose], if waits then acc.2 ++ (rowWait stod row).toList else acc.2) := by
  rw [loadRow, getlines_eq_pieces]
  by_cases hrow : row ≠ [] ∧ 8 ≤ (pieces ',' row).length
  · rw [if_neg hrow.1]
    simp only [poseOfTokens_eq hrow.1 hrow.2, waitOfTokens_eq, Nat.not_lt.2 hrow.2, if_false]
    cases rowPose stod frameId row with
    | none => rfl
    | some pose =>
      -- the pose is stored even if the waiting time is no number
      cases waits <;> cases rowWait stod row <;> simp
  · have hpose : rowPose stod frameId row = none := if_neg hrow
    rw [hpose]
    by_cases hempty : row = []
    · simp [hempty]
    · have hlength : (pieces ',' row).length < 8 := by simpa [hempty] using hrow
      simp [hempty, hlength]

/-- The loop stores the declared poses of the rows, and those of their waiting times that
    are numbers. -/
theorem foldl_loadRow (waits : Bool) (lines : List (List Char))
    (acc : List PoseStamped × List ℚ) :
    lines.foldl (loadRow stod frameId waits) acc =
      (acc.1 ++ lines.filterMap (rowPose stod frameId),
        if waits then acc.2 ++
          (lines.filter fun row => (rowPose stod frameId row).isSome).filterMap (rowWait stod)
        else acc.2) := by
  induction lines generalizing acc with
  | nil => cases waits <;> simp
  | cons row lines ih =>
    rw [List.foldl_cons, ih, loadRow_eq]
    cases hpose : rowPose stod frameId row with
    | none => simp [hpose]
    | some pose =>
      cases waits with
      | false => simp [hpose]
      | true => cases hwait : rowWait stod row <;> simp [hpose, hwait]

/-- Loading a file: its route, and the waiting times that are numbers. -/
theorem loadWaypointsFromCSV_eq (content : List Char) (waits : Bool) :
    loadWaypointsFromCSV stod (some content) frameId waits =
      if route stod frameId content = [] then none
      else some (route stod frameId content,
        if waits then (waypointRows stod frameId content).filterMap (rowWait stod) else []) := by
  have hloaded : ((getlines '\n' content).drop 1).foldl (loadRow stod frameId waits) ([], []) =
      (route stod frameId content,
        if waits then (waypointRows stod frameId content).filterMap (rowWait stod) else []) := by
    rw [getlines_eq_pieces, foldl_loadRow]
    rfl
  simp only [loadWaypointsFromCSV, hloaded]

/-! ## Routes -/

/-- The poses of the goal that `setGoal` makes of a file, if it is loaded. -/
def routeGoal (stod : List Char → Option ℚ) (file : Option (List Char)) (frameId : String) :
    Option (List PoseStamped) :=
  let frameId := if frameId = "" then "map" else frameId
  match loadWaypointsFromCSV stod file frameId false with
  | none => none
  | some (waypoints, _) =>
    if waypoints = [] then none
    else some (waypoints.map fun wp =>
      if wp.frameId = "" then { wp with frameId := frameId } else wp)

/-- `FollowWaypointsAction::setGoal` -/
def FollowWaypointsAction.setGoal (stod : List Char → Option ℚ) (file : Option (List Char))
    (frameId : String) : Option (List PoseStamped) :=
  routeGoal stod file frameId

/-- `NavigateThroughPosesAction::setGoal` -/
def NavigateThroughPosesAction.setGoal (stod : List Char → Option ℚ)
    (file : Option (List Char)) (frameId : String) : Option (List PoseStamped) :=
  routeGoal stod file frameId

/-- A route, if it has a waypoint. -/
def unlessEmpty (waypoints : List PoseStamped) : Option (List PoseStamped) :=
  if waypoints = [] then none else some waypoints

theorem load_poses (content : List Char) (waits : Bool) :
    (loadWaypointsFromCSV stod (some content) frameId waits).map Prod.fst =
      unlessEmpty (route stod frameId content) := by
  rw [loadWaypointsFromCSV_eq, unlessEmpty]
  split <;> rfl

/-- The waypoints of a route are in the frame that was asked for. -/
theorem frameId_of_mem_route {content : List Char} {wp : PoseStamped}
    (h : wp ∈ route stod frameId content) : wp.frameId = frameId := by
  obtain ⟨row, -, hrow⟩ := List.mem_filterMap.1 h
  rw [rowPose] at hrow
  split at hrow
  · split at hrow
    · rw [← Option.some.inj hrow]
    · simp at hrow
  · simp at hrow

theorem routeGoal_eq (stod : List Char → Option ℚ) (content : List Char) (frameId : String) :
    routeGoal stod (some content) frameId =
      unlessEmpty (route stod (if frameId = "" then "map" else frameId) content) := by
  have hname : (if frameId = "" then "map" else frameId) ≠ "" := by
    split
    · decide
    · assumption
  simp only [routeGoal]
  generalize (if frameId = "" then "map" else frameId) = name at hname ⊢
  have hmap : (route stod name content).map (fun wp =>
      if wp.frameId = "" then { wp with frameId := name } else wp) = route stod name content := by
    refine (List.map_congr_left fun wp hwp => ?_).trans (List.map_id _)
    rw [if_neg (frameId_of_mem_route hwp ▸ hname)]
    rfl
  by_cases hnil : route stod name content = []
  · simp [loadWaypointsFromCSV_eq, unlessEmpty, hnil]
  · simp [loadWaypointsFromCSV_eq, unlessEmpty, hnil, hmap]

/-- The poses loaded from a file are those its rows declare, in order, whether or not the
    waiting times are asked for, and it is loaded unless there is none; so the nodes that
    load it see the same route. -/
theorem loadWaypointsFromCSV_poses (stod : List Char → Option ℚ) (content : List Char)
    (frameId : String) :
    (∀ waits, (loadWaypointsFromCSV stod (some content) frameId waits).map Prod.fst =
      unlessEmpty (route stod frameId content)) ∧
    (frameId ≠ "" → FollowWaypointsAction.setGoal stod (some content) frameId =
        unlessEmpty (route stod frameId content) ∧
      NavigateThroughPosesAction.setGoal stod (some content) frameId =
        unlessEmpty (route stod frameId content)) ∧
    ∀ (env : Env) (w : World), env.stod = stod →
      env.file w.fileReads w.board.frontPatrolCsv = some content →
      ((w.loadWaypoints env).1 = .success ↔ route stod "map" content ≠ []) ∧
        ((w.loadWaypoints env).1 = .success →
          (w.loadWaypoints env).2.board.frontWaypoints = some (route stod "map" content)) := by
  refine ⟨load_poses content, fun hname => ?_, ?_⟩
  · rw [FollowWaypointsAction.setGoal, NavigateThroughPosesAction.setGoal, routeGoal_eq,
      if_neg hname]
    exact ⟨rfl, rfl⟩
  · rintro env w rfl hfile
    by_cases hnil : route env.stod "map" content = []
    · simp [World.loadWaypoints, hfile, loadWaypointsFromCSV_eq, hnil]
    · simp [World.loadWaypoints, hfile, loadWaypointsFromCSV_eq, hnil]

/-! ## Waiting times -/

/-- The waiting times loaded with some waypoints from a file are those of the same rows:
    there are as many, each is the one its row declares, and `GetCurrentWaypoint` takes a
    waypoint with the waiting time of its row. -/
structure WaitsAttached (stod : List Char → Option ℚ) (frameId : String) (content : List Char)
    (loaded : List PoseStamped × List ℚ) : Prop where
  length : loaded.2.length = loaded.1.length
  wait : ∀ (i : ℕ) row, (waypointRows stod frameId content)[i]? = some row →
    loaded.2[i]? = rowWait stod row
  paired : ∀ w : World, w.board.frontWaypoints = some loaded.1 →
    w.board.frontWaitTimes = some loaded.2 → w.getCurrentWaypoint.1 = .success →
    ∃ (i : ℕ) (row : List Char), w.board.frontWpIdx = some (i : ℤ) ∧
      (waypointRows stod frameId content)[i]? = some row ∧
      w.getCurrentWaypoint.2.board.frontCurrentGoal = rowPose stod frameId row ∧
      w.getCurrentWaypoint.2.board.frontCurrentWaitSec = rowWait stod row

/-- `GetCurrentWaypoint` takes the waypoint at the index, with the waiting time there. -/
theorem getCurrentWaypoint_of_success {w : World} {waypoints : List PoseStamped}
    {waits : List ℚ} (hwaypoints : w.board.frontWaypoints = some waypoints)
    (hwaits : w.board.frontWaitTimes = some waits) (hlength : waits.length = waypoints.length)
    (h : w.getCurrentWaypoint.1 = .success) :
    ∃ i : ℕ, w.board.frontWpIdx = some (i : ℤ) ∧ i < waypoints.length ∧
      w.getCurrentWaypoint.2.board.frontCurrentGoal = waypoints[i]? ∧
      w.getCurrentWaypoint.2.board.frontCurrentWaitSec = waits[i]? := by
  cases hidx : w.board.frontWpIdx with
  | none => simp [World.getCurrentWaypoint, hidx] at h
  | some idx =>
    by_cases hrange : idx < 0 ∨ toInt32 waypoints.length ≤ idx
    · simp [World.getCurrentWaypoint, hidx, hwaypoints, hrange] at h
    · obtain ⟨i, rfl⟩ := Int.eq_ofNat_of_zero_le (a := idx) (by omega)
      -- the index is in range of the waiting times too, as there are as many
      have hlt : (i : ℤ) < toInt32 waits.length := hlength ▸ by omega
      cases hgoal : waypoints[i]? with
      | none => simp [World.getCurrentWaypoint, hidx, hwaypoints, hrange, hgoal] at h
      | some goal =>
        have hi : i < waypoints.length := (List.getElem?_eq_some_iff.1 hgoal).1
        have hwait : waits[i]? = some (waits.getD i 0) := by
          rw [List.getD_eq_getElem?_getD, List.getElem?_eq_getElem (hlength ▸ hi)]
          rfl
        refine ⟨i, rfl, hi, ?_, ?_⟩
        · simp [World.getCurrentWaypoint, hidx, hwaypoints, hwaits, hrange, hgoal]
        · rw [hwait]
          simp [World.getCurrentWaypoint, hidx, hwaypoints, hwaits, hrange, hgoal, hlt]

/-- The values of a partial function on some arguments are those where it is defined. -/
theorem map_some_filterMap {α β : Type*} (f : α → Option β) (l : List α) :
    (l.filterMap f).map some = (l.filter fun a => (f a).isSome).map f := by
  rw [List.map_filterMap_some_eq_filter_map_isSome, List.filter_map]
  rfl

theorem getElem?_filterMap {α β : Type*} (f : α → Option β) (l : List α) (i : ℕ) :
    (l.filterMap f)[i]? = (l.filter fun a => (f a).isSome)[i]?.bind f := by
  have h := congrArg (fun l => l[i]?) (map_some_filterMap f l)
  simp only [List.getElem?_map] at h
  cases hvalue : (l.filterMap f)[i]? <;>
    cases harg : (l.filter fun a => (f a).isSome)[i]? <;> simp_all

/-- A waypoint is the one its row declares. -/
theorem route_getElem? (content : List Char) (i : ℕ) :
    (route stod frameId content)[i]? =
      (waypointRows stod frameId content)[i]?.bind (rowPose stod frameId) :=
  getElem?_filterMap _ _ _

theorem length_route (content : List Char) :
    (route stod frameId content).length = (waypointRows stod frameId content).length := by
  have h := congrArg List.length (map_some_filterMap (rowPose stod frameId) (rows content))
  rwa [List.length_map, List.length_map] at h

/-- What the loader leaves in empty vectors. -/
theorem load_getD (content : List Char) :
    (loadWaypointsFromCSV stod (some content) frameId true).getD ([], []) =
      (route stod frameId content,
        (waypointRows stod frameId content).filterMap (rowWait stod)) := by
  rw [loadWaypointsFromCSV_eq]
  by_cases hnil : route stod frameId content = []
  · have hrows : waypointRows stod frameId content = [] := by
      rw [← List.length_eq_zero_iff, ← length_route, hnil, List.length_nil]
    simp [hnil, hrows]
  · simp [hnil]

/-- A row declares a waiting time if its column 9 is missing, or empty, or a number. -/
theorem rowWait_isSome (row : List Char) :
    (rowWait stod row).isSome ↔
      ∀ field ∈ (pieces ',' row)[9]?, field = [] ∨ (stod field).isSome := by
  rw [rowWait]
  cases (pieces ',' row)[9]? with
  | none => simp
  | some field => cases field <;> simp

/-- The waiting times are those of the same rows just when every row that declares a
    waypoint has its column 9 missing, or empty, or a number. -/
theorem waitsAttached_iff (stod : List Char → Option ℚ) (frameId : String)
    (content : List Char) :
    WaitsAttached stod frameId content
        ((loadWaypointsFromCSV stod (some content) frameId true).getD ([], [])) ↔
      ∀ row ∈ waypointRows stod frameId content, ∀ field ∈ (pieces ',' row)[9]?,
        field = [] ∨ (stod field).isSome := by
  simp only [load_getD, ← rowWait_isSome]
  constructor
  · intro h
    have hlength := h.length
    rw [length_route] at hlength
    exact List.filterMap_length_eq_length.1 hlength
  · intro h
    have hlength : ((waypointRows stod frameId content).filterMap (rowWait stod)).length =
        (waypointRows stod frameId content).length := List.filterMap_length_eq_length.2 h
    have hwait : ∀ (i : ℕ) row, (waypointRows stod frameId content)[i]? = some row →
        ((waypointRows stod frameId content).filterMap (rowWait stod))[i]? =
          rowWait stod row := by
      intro i row hrow
      rw [getElem?_filterMap, List.filter_eq_self.2 h, hrow, Option.bind_some]
    refine ⟨by rw [hlength, length_route], hwait, fun w hwaypoints hwaits hsuccess => ?_⟩
    obtain ⟨i, hidx, hi, hgoal, hsec⟩ := getCurrentWaypoint_of_success hwaypoints hwaits
      (by rw [hlength, length_route]) hsuccess
    have hlt : i < (waypointRows stod frameId content).length := by
      rwa [← length_route]
    have hrow := List.getElem?_eq_getElem hlt
    refine ⟨i, _, hidx, hrow, ?_, ?_⟩
    · rw [hgoal, route_getElem?, hrow]
      rfl
    · rw [hsec, hwait i _ hrow]

/-- The value of a digit that starts a field. -/
def leadingDigit : List Char → Option ℚ
  | [] => none
  | c :: _ => if c.isDigit then some ((c.toNat - '0'.toNat : ℕ) : ℚ) else none

/-- Two rows whose lines end with a carriage return, the first one without a waiting time:
    its column 9 is not empty, and not a number, so the first waypoint gets the waiting
    time of the second one. -/
theorem not_waitsAttached_return :
    ¬∀ stod frameId content, WaitsAttached stod frameId content
      ((loadWaypointsFromCSV stod (some content) frameId true).getD ([], [])) := by
  intro h
  have hattached := h leadingDigit "map"
    "id,x,y,z,qx,qy,qz,qw,command,wait\r\n0,1,0,0,0,0,0,1,,\r\n1,2,0,0,0,0,0,1,,5\r\n".toList
  have hlength := hattached.length
  revert hlength
  decide +kernel

end Sentry.Behavior
