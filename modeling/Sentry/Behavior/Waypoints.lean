import Mathlib.Data.Rat.Defs

/-!
# Waypoints

Poses, and the loader of the waypoint file: a comma-separated table whose first line
is a header. The conversion of a field to a finite number (`std::stod`) is any partial
function on strings.

Times of messages are left out.
-/

namespace Sentry.Behavior

structure Point where
  x : ℚ
  y : ℚ
  z : ℚ
  deriving DecidableEq

structure Quaternion where
  x : ℚ
  y : ℚ
  z : ℚ
  w : ℚ
  deriving DecidableEq

structure Pose where
  position : Point
  orientation : Quaternion
  deriving DecidableEq

/-- `PoseStamped`, without its time stamp. -/
structure PoseStamped where
  frameId : String
  pose : Pose
  deriving DecidableEq

/-! ## The waypoint file -/

/-- Repeated `std::getline` up to the end of the input: the pieces between separators,
    without an empty one at the end. -/
def getlines (sep : Char) : List Char → List (List Char)
  | [] => []
  | c :: cs =>
    if c = sep then [] :: getlines sep cs
    else
      match getlines sep cs with
      | [] => [[c]]
      | piece :: pieces => (c :: piece) :: pieces

/-- The pose in the tokens of a row, if they are all converted. -/
def poseOfTokens (stod : List Char → Option ℚ) (frameId : String) (tokens : List (List Char)) :
    Option PoseStamped := do
  let x ← stod (tokens.getD 1 [])
  let y ← stod (tokens.getD 2 [])
  let z ← stod (tokens.getD 3 [])
  let qx ← stod (tokens.getD 4 [])
  let qy ← stod (tokens.getD 5 [])
  let qz ← stod (tokens.getD 6 [])
  let qw ← stod (tokens.getD 7 [])
  return ⟨frameId, ⟨⟨x, y, z⟩, ⟨qx, qy, qz, qw⟩⟩⟩

/-- The waiting time in the tokens of a row: the tenth one, 0 if it is missing or empty. -/
def waitOfTokens (stod : List Char → Option ℚ) (tokens : List (List Char)) : Option ℚ :=
  if 9 < tokens.length ∧ tokens.getD 9 [] ≠ [] then stod (tokens.getD 9 []) else some 0

/-- The body of the loop of `loadWaypointsFromCSV`, for one line: a pose that was pushed
    stays even if the waiting time is not converted. -/
def loadRow (stod : List Char → Option ℚ) (frameId : String) (waits : Bool)
    (acc : List PoseStamped × List ℚ) (line : List Char) : List PoseStamped × List ℚ :=
  if line = [] then acc
  else
    let tokens := getlines ',' line
    if tokens.length < 8 then acc
    else
      match poseOfTokens stod frameId tokens with
      | none => acc
      | some pose =>
        if waits then
          match waitOfTokens stod tokens with
          | none => (acc.1 ++ [pose], acc.2)
          | some wait => (acc.1 ++ [pose], acc.2 ++ [wait])
        else (acc.1 ++ [pose], acc.2)

/-- `loadWaypointsFromCSV`, called with empty vectors: the poses, and the waiting times
    if they are asked for. It fails if the file is not opened or holds no pose. -/
def loadWaypointsFromCSV (stod : List Char → Option ℚ) (file : Option (List Char))
    (frameId : String) (waits : Bool) : Option (List PoseStamped × List ℚ) :=
  match file with
  | none => none
  | some content =>
    -- The first line is the header.
    let loaded := ((getlines '\n' content).drop 1).foldl (loadRow stod frameId waits) ([], [])
    if loaded.1 = [] then none else some loaded

end Sentry.Behavior
