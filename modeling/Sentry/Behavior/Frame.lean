import Sentry.Behavior.Tactical

/-!
# What the leaves leave alone

Each entry of the world is written by the leaves of one class at most, apart from the number of
readings of the clock, which only grows (`tick_frame`).
-/

namespace Sentry.Behavior

open BehaviorTree (Status)

/-- What a leaf leaves alone. -/
structure Frame (l : Leaf) (w w' : World) : Prop where
  clockReads : w.clockReads ≤ w'.clockReads
  zoneModeTopic : w'.board.zoneModeTopic = w.board.zoneModeTopic
  pubs : (∀ branch, l ≠ .pubNav2Goal branch) → w'.pubs = w.pubs
  fileReads : l ≠ .loadWaypoints → w'.fileReads = w.fileReads
  modes : (∀ branch, l ≠ .setSentryMode branch) →
    w'.board.mode = w.board.mode ∧ w'.modeNodes = w.modeNodes ∧ w'.modes = w.modes
  labels : (∀ branch, l ≠ .announceBehavior branch) →
    w'.board.currentBehaviorLabel = w.board.currentBehaviorLabel ∧ w'.labels = w.labels

/-- A leaf that writes nothing of it. -/
theorem Frame.quiet {l : Leaf} {w w' : World} (hreads : w.clockReads ≤ w'.clockReads)
    (htopic : w'.board.zoneModeTopic = w.board.zoneModeTopic) (hpubs : w'.pubs = w.pubs)
    (hfiles : w'.fileReads = w.fileReads) (hmode : w'.board.mode = w.board.mode)
    (hnodes : w'.modeNodes = w.modeNodes) (hmodes : w'.modes = w.modes)
    (hlabel : w'.board.currentBehaviorLabel = w.board.currentBehaviorLabel)
    (hlabels : w'.labels = w.labels) : Frame l w w' :=
  ⟨hreads, htopic, fun _ => hpubs, fun _ => hfiles, fun _ => ⟨hmode, hnodes, hmodes⟩,
    fun _ => ⟨hlabel, hlabels⟩⟩

theorem tick_frame (env : Env) (l : Leaf) (status : Status) (w : World) :
    Frame l w ((sem env l).tick status w).2 := by
  cases l with
  | writeToBlackboard =>
    simp only [sem, BehaviorTree.Leaf.sync, World.writeToBlackboard]
    split <;> exact .quiet le_rfl rfl rfl rfl rfl rfl rfl rfl rfl
  | hpCondition =>
    simp only [sem, BehaviorTree.Leaf.sync, World.hpCondition]
    split <;> exact .quiet le_rfl rfl rfl rfl rfl rfl rfl rfl rfl
  | setSentryMode branch =>
    exact ⟨Nat.le_succ _, rfl, fun _ => rfl, fun _ => rfl, fun h => absurd rfl (h branch),
      fun _ => ⟨rfl, rfl⟩⟩
  | announceBehavior branch =>
    exact ⟨le_rfl, rfl, fun _ => rfl, fun _ => rfl, fun _ => ⟨rfl, rfl, rfl⟩,
      fun h => absurd rfl (h branch)⟩
  | pubNav2Goal branch =>
    have hpubs : ∀ w' : World, (∀ branch', Leaf.pubNav2Goal branch ≠ .pubNav2Goal branch') →
        w'.pubs = w.pubs := fun _ h => absurd rfl (h branch)
    simp only [sem, BehaviorTree.Leaf.sync, World.pubNav2Goal]
    split
    · exact ⟨by dsimp only; split <;> omega, rfl, hpubs _, fun _ => rfl,
        fun _ => ⟨rfl, rfl, rfl⟩, fun _ => ⟨rfl, rfl⟩⟩
    · split <;> exact ⟨by dsimp only; split <;> omega, rfl, hpubs _, fun _ => rfl,
        fun _ => ⟨rfl, rfl, rfl⟩, fun _ => ⟨rfl, rfl⟩⟩
  | waitUntilReached branch =>
    cases status with
    | idle =>
      simp only [sem, BehaviorTree.Leaf.stateful, World.startWait]
      split <;> exact .quiet le_rfl rfl rfl rfl rfl rfl rfl rfl rfl
    | running | success | failure => exact .quiet le_rfl rfl rfl rfl rfl rfl rfl rfl rfl
  | loadWaypoints =>
    have hfiles : ∀ w' : World, Leaf.loadWaypoints ≠ .loadWaypoints →
        w'.fileReads = w.fileReads := fun _ h => absurd rfl h
    simp only [sem, BehaviorTree.Leaf.sync, World.loadWaypoints]
    split <;> exact ⟨le_rfl, rfl, fun _ => rfl, hfiles _, fun _ => ⟨rfl, rfl, rfl⟩,
      fun _ => ⟨rfl, rfl⟩⟩
  | getCurrentWaypoint =>
    simp only [sem, BehaviorTree.Leaf.sync, World.getCurrentWaypoint]
    split
    · split
      · exact .quiet le_rfl rfl rfl rfl rfl rfl rfl rfl rfl
      · split <;> exact .quiet le_rfl rfl rfl rfl rfl rfl rfl rfl rfl
    · exact .quiet le_rfl rfl rfl rfl rfl rfl rfl rfl rfl
  | waitDuration =>
    cases status with
    | idle =>
      simp only [sem, BehaviorTree.Leaf.stateful, World.startDuration]
      split
      · exact .quiet le_rfl rfl rfl rfl rfl rfl rfl rfl rfl
      · exact .quiet (Nat.le_succ _) rfl rfl rfl rfl rfl rfl rfl rfl
    | running => exact .quiet (Nat.le_succ _) rfl rfl rfl rfl rfl rfl rfl rfl
    | success | failure => exact .quiet le_rfl rfl rfl rfl rfl rfl rfl rfl rfl
  | nextWaypoint =>
    simp only [sem, BehaviorTree.Leaf.sync, World.nextWaypoint]
    split <;> exact .quiet le_rfl rfl rfl rfl rfl rfl rfl rfl rfl

end Sentry.Behavior
