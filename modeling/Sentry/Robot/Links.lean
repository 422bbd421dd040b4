import Sentry.Robot.Link

/-!
# The links of the robot

The whole robot refines its two links: seen from the channel of the messages, a run of the
robot is a run of the serial node and the tree (`HealthLink`), and seen from the channel of the
modes, it is a run of the nodes `SetSentryMode` and the serial node (`ModeLink`), with the same
events, if the modes are published on the topic of the mode command (`links_refined`). A tick
of the tree is a tick of each node `SetSentryMode` that it visits.
-/

namespace Sentry.Robot

open Behavior (Branch Env Leaf ModeSystem ModeTick PoseStamped World modeTopic sem tick_frame)
open BehaviorTree.Node (LeafStep)
open Talker (Event Input ReceiveNode)
open Transition (Run)

/-! ## Ticks -/

section

variable {env : Env} {w w' : World} {visits : List (Leaf × World)} {m : ModeLink Branch}

/-- The nodes `SetSentryMode`, and the entries of the blackboard about the mode. -/
def modeSystem (w : World) : ModeSystem Branch := ⟨w.modeNodes, w.board.mode⟩

/-- The modes are published one after the other. -/
def publishAll (channel : Channel (BitVec 32) 10) (modes : List (String × ℤ)) :
    Channel (BitVec 32) 10 :=
  modes.foldl (fun channel msg => ModeLink.publish channel (some msg)) channel

/-- A visit of a leaf is a tick of its node `SetSentryMode`, or nothing. -/
theorem leaf_ticks (env : Env) (l : Leaf) (status : BehaviorTree.Status) (w : World)
    (htopic : modeTopic w.board.zoneModeTopic = "/sentry_mode_cmd") (hm : m.tree = modeSystem w) :
    ∃ m' modes, Run ModeLink.Step m [] m' ∧
      m'.tree = modeSystem ((sem env l).tick status w).2 ∧
      ((sem env l).tick status w).2.modes = w.modes ++ modes ∧
      m'.channel = publishAll m.channel modes ∧ m'.talker = m.talker := by
  by_cases hmode : ∃ branch, l = .setSentryMode branch
  · obtain ⟨branch, rfl⟩ := hmode
    let t : ModeTick Branch :=
      ⟨branch, "move", w.board.zoneModeTopic, false, Behavior.toSeconds (env.now w.clockReads)⟩
    have ht : t.topic = "/sentry_mode_cmd" := htopic
    refine ⟨m.tick t, (m.tree.tick t).2.2.toList, .single (ModeLink.Step.tick m t ht), ?_, ?_, ?_,
      rfl⟩
    · rw [ModeLink.tick, hm]
      rfl
    · rw [hm]
      rfl
    · rw [ModeLink.tick]
      cases (m.tree.tick t).2.2 <;> rfl
  · obtain ⟨hboard, hnodes, hmodes⟩ := (tick_frame env l status w).modes (not_exists.1 hmode)
    refine ⟨m, [], .nil m, ?_, by rw [hmodes, List.append_nil], rfl, rfl⟩
    rw [hm, modeSystem, modeSystem, hboard, hnodes]

/-- A tick of the tree is a run of its nodes `SetSentryMode`. -/
theorem visits_tick (h : Run (LeafStep (sem env)) w visits w')
    (htopic : modeTopic w.board.zoneModeTopic = "/sentry_mode_cmd") (hm : m.tree = modeSystem w) :
    ∃ m' modes, Run ModeLink.Step m [] m' ∧ m'.tree = modeSystem w' ∧
      w'.modes = w.modes ++ modes ∧ m'.channel = publishAll m.channel modes ∧
      m'.talker = m.talker := by
  induction h generalizing m with
  | nil w => exact ⟨m, [], .nil m, hm, (List.append_nil _).symm, rfl, rfl⟩
  | cons hstep _ ih =>
    obtain ⟨l, status, rfl, rfl⟩ := hstep
    obtain ⟨m₁, modes₁, hrun₁, htree₁, hmodes₁, hchannel₁, htalker₁⟩ :=
      leaf_ticks env l status _ htopic hm
    have htopic₁ := (tick_frame env l status _).zoneModeTopic ▸ htopic
    obtain ⟨m₂, modes₂, hrun₂, htree₂, hmodes₂, hchannel₂, htalker₂⟩ := ih htopic₁ htree₁
    refine ⟨m₂, modes₁ ++ modes₂, hrun₁.trans hrun₂, htree₂, ?_, ?_, htalker₂.trans htalker₁⟩
    · rw [hmodes₂, hmodes₁, List.append_assoc]
    · rw [hchannel₂, hchannel₁, publishAll, publishAll, publishAll, List.foldl_append]

end

/-! ## Runs -/

namespace RobotLink

variable {env : Env} {port : ReceiveNode → Input → Prop} {s s' : RobotLink} {es : List Event}

/-- The robot, seen from the channel of the messages. -/
def health (s : RobotLink) : HealthLink := ⟨s.talker, s.toTree, s.tree⟩

/-- The robot, seen from the channel of the modes. -/
structure Shows (s : RobotLink) (m : ModeLink Branch) : Prop where
  tree : m.tree = modeSystem s.tree.world
  channel : m.channel = s.toTalker
  talker : m.talker = s.talker

/-- A step of the robot is at most one of the link of the messages. -/
theorem health_step (hstep : Step env port s es s') :
    ∃ visits, Run (HealthLink.Step env) s.health visits s'.health := by
  cases hstep with
  | talker i => exact ⟨_, .single (HealthLink.Step.talker s.health i)⟩
  | loseMessage h => exact ⟨_, .single (HealthLink.Step.lose s.health h)⟩
  | deliverMessage h => exact ⟨_, .single (HealthLink.Step.deliver s.health h)⟩
  | tick => exact ⟨_, .single (HealthLink.Step.tick s.health)⟩
  | loseMode => exact ⟨_, .nil s.health⟩
  | @deliverMode m => exact ⟨_, .single (HealthLink.Step.talker s.health (.sentryMode m))⟩

theorem health_run (hrun : Run (Step env port) s es s') :
    ∃ visits, Run (HealthLink.Step env) s.health visits s'.health := by
  obtain ⟨visits, h, -, hvisits, rfl⟩ := hrun.simulates (R := fun s h => s.health = h)
    (E := fun _ _ => True) trivial (fun _ _ _ _ _ _ => trivial)
    (fun s es s' h hs hstep => by
      obtain ⟨visits, hvisits⟩ := health_step hstep
      exact ⟨visits, _, trivial, hs ▸ hvisits, rfl⟩) rfl
  exact ⟨visits, hvisits⟩

/-- A step of the robot is a run of the link of the modes, with the same events. -/
theorem shows_step (hstep : Step env port s es s') {m : ModeLink Branch} (h : s.Shows m)
    (htopic : modeTopic s.tree.world.board.zoneModeTopic = "/sentry_mode_cmd") :
    ∃ m', Run ModeLink.Step m es m' ∧ s'.Shows m' := by
  obtain ⟨tree, channel, talker, selected⟩ := m
  obtain ⟨rfl, rfl, rfl⟩ := h
  cases hstep with
  | talker i hi => exact ⟨_, .single (ModeLink.Step.talker _ i hi), rfl, rfl, rfl⟩
  | loseMessage => exact ⟨_, .nil _, rfl, rfl, rfl⟩
  | deliverMessage =>
    refine ⟨_, .nil _, ?_, rfl, rfl⟩
    dsimp only
    rw [Behavior.World.deliver_eq]
    rfl
  | tick =>
    obtain ⟨m', modes, hrun, htree, hmodes, hchannel, htalker⟩ :=
      visits_tick (s.tree.iterate_run env []) htopic (m := ⟨_, s.toTalker, s.talker, selected⟩) rfl
    refine ⟨m', hrun, htree, hchannel.trans ?_, htalker⟩
    have hmodes : (s.tree.iterate env []).2.world.modes = s.tree.world.modes ++ modes := hmodes
    rw [RobotLink.tick, hmodes, List.drop_left]
    rfl
  | loseMode h => exact ⟨_, .single (ModeLink.Step.lose _ h), rfl, rfl, rfl⟩
  | deliverMode h => exact ⟨_, .single (ModeLink.Step.deliver _ h), rfl, rfl, rfl⟩

end RobotLink

open RobotLink (Step init)

/-- Every run of the robot is a run of the link of the messages, and, with the same events, one
    of the link of the modes, if these are published on the topic of the mode command. -/
theorem links_refined {env : Env} {port : ReceiveNode → Input → Prop} {dataType : String}
    {enableDownlinkReceive : Bool} {now : ℤ} {homePosition : PoseStamped}
    {zoneModeTopic frontPatrolCsv : String} {es : List Event} {s : RobotLink}
    (hrun : Run (Step env port) (init dataType enableDownlinkReceive now homePosition zoneModeTopic
      frontPatrolCsv) es s) :
    (∃ visits, Run (HealthLink.Step env) (HealthLink.init dataType enableDownlinkReceive now
      homePosition zoneModeTopic frontPatrolCsv) visits s.health) ∧
    (modeTopic zoneModeTopic = "/sentry_mode_cmd" →
      ∃ m, Run ModeLink.Step (ModeLink.init Branch dataType enableDownlinkReceive now) es m ∧
        s.Shows m) := by
  refine ⟨RobotLink.health_run hrun, fun htopic => ?_⟩
  obtain ⟨fs, m, rfl, hm, hshows, -⟩ := hrun.simulates
    (R := fun s m => s.Shows m ∧ s.Informed homePosition zoneModeTopic) (E := Eq) rfl
    (fun _ _ _ _ hes hes' => congrArg₂ _ hes hes')
    (fun s es s' m hs hstep => by
      obtain ⟨m', hrun, hshows⟩ :=
        RobotLink.shows_step hstep hs.1 (by rw [hs.2.zoneModeTopic]; exact htopic)
      exact ⟨es, m', rfl, hrun, hshows, hs.2.step hstep⟩)
    (t := ModeLink.init Branch dataType enableDownlinkReceive now)
    ⟨⟨rfl, rfl, rfl⟩, RobotLink.informed_init _ _ _⟩
  exact ⟨m, hm, hshows⟩

theorem links_refined_delivered : ∃ es m,
    Run ModeLink.Step (ModeLink.init Branch Talker.dataTypeSeven true 0) es m ∧
      (delivered.tick stopped).Shows m := by
  obtain ⟨es, hrun⟩ := delivered_run
  obtain ⟨m, hm, hshows⟩ := (links_refined (hrun.trans (.single (.tick delivered)))).2 rfl
  exact ⟨_, m, hm, hshows⟩

end Sentry.Robot
