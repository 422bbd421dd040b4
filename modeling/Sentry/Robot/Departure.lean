import Sentry.Robot.Links

/-!
# What sends the robot on its patrol

The robot stays at home until the serial node publishes a message with enough health: before,
the patrol branch is never entered, no waypoint file is read, and nothing but the home position
is published, whatever the port delivers and whenever the tree ticks (`departs_healthy`). The
messages of 3v3 frames do not have the field that the tree reads, so with another `data_type`
than `seven` the robot never leaves.
-/

namespace Sentry.Behavior

open BehaviorTree (Status)
open BehaviorTree.Node (LeafStep)
open Sentry.Talker (SerialReceiveData)
open Transition (Run)

section

variable {env : Env} {w w' : World} {visits : List (Leaf × World)}

/-- Only `LoadWaypoints` reads a file. -/
theorem run_fileReads (h : Run (LeafStep (sem env)) w visits w')
    (hvisits : ∀ visit ∈ visits, visit.1 ≠ .loadWaypoints) : w'.fileReads = w.fileReads := by
  induction h with
  | nil => rfl
  | cons hstep _ ih =>
    obtain ⟨l, status, rfl, rfl⟩ := hstep
    rw [ih fun visit hvisit => hvisits visit (List.mem_append_right _ hvisit)]
    exact (tick_frame env l status _).fileReads (hvisits _ List.mem_cons_self)

end

/-- The robot has not left: the patrol branch is still, no file has been read, and what has
    been published is the home position. -/
structure State.AtHome (homePosition : PoseStamped) (s : State) : Prop where
  still : Still .patrol s.tree
  fileReads : s.world.fileReads = 0
  goalPoses : ∀ pose ∈ s.world.goalPoses, pose.pose = homePosition.pose

variable {env : Env} {s : State} {root : Status} {phase : Phase} {msg : SerialReceiveData}

/-- A tick with low health does not load waypoints. -/
theorem iterate_not_loads (env : Env) (htree : s.tree = phase.tree root)
    (hmsg : s.world.writer = .callback msg) (hlow : msg.hp.toNat < 300) :
    ∀ visit ∈ (s.iterate env []).1, visit.1 ≠ .loadWaypoints := by
  obtain ⟨root', hiter⟩ := State.iterate_tree env htree []
  have hdeliver : s.world.deliver [] = s.world := rfl
  have hmove := move_message env phase (w := s.world) (by rw [hmsg]; rfl)
  have hhp : s.world.writer.hp < 300 := by
    rw [hmsg]
    show ((msg.hp.toNat : ℕ) : ℚ) < 300
    exact_mod_cast hlow
  rw [if_pos hhp] at hmove
  rw [hiter, hdeliver, hmove]
  intro visit hvisit
  rcases List.mem_append.1 hvisit with hread | hrest
  · obtain rfl | rfl : visit = _ ∨ visit = _ := by simpa using hread
    · simp
    · simp
  · revert hrest
    rw [homeNodeMove]
    split
    · intro hrest
      simp only [homeMove, List.mem_singleton] at hrest
      simp [hrest]
    · intro hrest
      simp only [goHomeMove, List.mem_cons, List.not_mem_nil, or_false] at hrest
      rcases hrest with rfl | rfl | rfl | rfl <;> simp

/-- A tick with low health leaves the robot at home. -/
theorem State.AtHome.iterate (h : s.AtHome s.world.board.homePosition) (env : Env)
    (htree : s.tree = phase.tree root) (hmsg : s.world.writer = .callback msg)
    (hlow : msg.hp.toNat < 300) : (s.iterate env []).2.AtHome s.world.board.homePosition := by
  have hdeliver : (s.world.deliver []).writer = .callback msg := hmsg
  have hobeys := obeys_iterate env htree hdeliver
  rw [Obeys, if_pos (by exact_mod_cast hlow)] at hobeys
  refine ⟨hobeys.1, ?_, fun pose hpose => ?_⟩
  · exact (run_fileReads (s.iterate_run env []) (iterate_not_loads env htree hmsg hlow)).trans
      h.fileReads
  · rw [run_goalPoses (s.iterate_run env [])] at hpose
    exact (List.mem_append.1 hpose).elim (h.goalPoses pose) (hobeys.2 pose)

end Sentry.Behavior

namespace Sentry.Robot

open Behavior (Env Phase PoseStamped State WriteToBlackboard)
open Talker (Event Input ReceiveNode SerialReceiveData)
open Transition (Run)

namespace RobotLink

variable {env : Env} {port : ReceiveNode → Input → Prop} {s s' : RobotLink} {es : List Event}
  {homePosition : PoseStamped} {zoneModeTopic frontPatrolCsv : String}

/-- What is sent to the tree is what the serial node publishes. -/
theorem sent_step (hstep : Step env port s es s') :
    s'.toTree.sent = s.toTree.sent ++ messages es := by
  cases hstep with
  | talker => exact (HealthLink.foldl_send _ _).1
  | deliverMode => exact (HealthLink.foldl_send _ _).1
  | loseMessage | deliverMessage | tick | loseMode => exact (List.append_nil _).symm

theorem sent_run (hrun : Run (Step env port) s es s') :
    s'.toTree.sent = s.toTree.sent ++ messages es := by
  induction hrun with
  | nil => exact (List.append_nil _).symm
  | cons hstep _ ih => rw [ih, sent_step hstep, messages_append, List.append_assoc]

/-- While all messages have low health, a step leaves the robot at home. -/
theorem atHome_step (hinformed : s.Informed homePosition zoneModeTopic)
    (h : s.tree.AtHome homePosition) (hstep : Step env port s es s')
    (hlow : ∀ msg ∈ s.toTree.sent, msg.hp.toNat < 300) : s'.tree.AtHome homePosition := by
  cases hstep with
  | talker | deliverMode | loseMessage | loseMode => exact h
  | deliverMessage => exact ⟨h.still, h.fileReads, h.goalPoses⟩
  | tick =>
    obtain ⟨root, phase, htree⟩ := hinformed.tree
    have hwriter := hinformed.writer
    cases hlast : s.toTree.received.getLast? with
    | none =>
      rw [hlast] at hwriter
      obtain ⟨root', hiter⟩ := Behavior.iterate_noMessage env htree (by rw [hwriter]; rfl)
      rw [RobotLink.tick, hiter]
      exact ⟨(Behavior.still_patrol root' .idle).2 (.inl rfl), h.fileReads, h.goalPoses⟩
    | some msg =>
      rw [hlast] at hwriter
      -- what was delivered was sent
      have hmem : msg ∈ s.toTree.sent :=
        Channel.mem_sent (List.mem_append_left _ (List.mem_of_getLast? hlast))
      have hhome := hinformed.homePosition
      rw [← hhome] at h ⊢
      exact h.iterate env htree hwriter (hlow msg hmem)

/-- The messages of 3v3 frames do not have the health that the tree reads. -/
theorem three_run {dataType : String} {enableDownlinkReceive : Bool} {now : ℤ}
    (hrun : Run (Step env port) (init dataType enableDownlinkReceive now homePosition zoneModeTopic
      frontPatrolCsv) es s) (hthree : dataType ≠ Talker.dataTypeSeven) :
    ∀ msg ∈ s.toTree.sent, msg.hp = 0 := by
  obtain ⟨visits, hhealth⟩ := health_run hrun
  have htraces : s.health.Traces (ReceiveNode.init dataType enableDownlinkReceive now).format :=
    HealthLink.run_traces hhealth
  have hformat : (ReceiveNode.init dataType enableDownlinkReceive now).format =
      Talker.formatThree := if_neg (by simpa [ReceiveNode.init] using hthree)
  intro msg hmsg
  obtain ⟨frame, -, rfl⟩ := htraces.sent msg hmsg
  rw [hformat]
  rfl

theorem atHome_init (homePosition : PoseStamped) (zoneModeTopic frontPatrolCsv : String) :
    (State.init homePosition zoneModeTopic frontPatrolCsv).AtHome homePosition where
  still := (Behavior.still_patrol .idle .idle).2 (.inl rfl)
  fileReads := rfl
  goalPoses := nofun

end RobotLink

open RobotLink (Step init)

/-- In every run, the robot is at home and has not left, unless the serial node is for 7v7
    frames and has published a message with enough health. -/
theorem departs_healthy {env : Env} {port : ReceiveNode → Input → Prop} {dataType : String}
    {enableDownlinkReceive : Bool} {now : ℤ} {homePosition : PoseStamped}
    {zoneModeTopic frontPatrolCsv : String} {es : List Event} {s : RobotLink}
    (hrun : Run (Step env port) (init dataType enableDownlinkReceive now homePosition zoneModeTopic
      frontPatrolCsv) es s) :
    s.tree.AtHome homePosition ∨
      dataType = Talker.dataTypeSeven ∧ ∃ msg ∈ messages es, 300 ≤ msg.hp.toNat := by
  have hinvariant := hrun.invariant
    (I := fun s => s.Informed homePosition zoneModeTopic ∧
      ((∀ msg ∈ s.toTree.sent, msg.hp.toNat < 300) → s.tree.AtHome homePosition))
    (fun _ _ _ h hstep => ⟨h.1.step hstep, fun hlow => by
      rw [RobotLink.sent_step hstep] at hlow
      have hbefore := fun msg hmsg => hlow msg (List.mem_append_left _ hmsg)
      exact RobotLink.atHome_step h.1 (h.2 hbefore) hstep hbefore⟩)
    ⟨RobotLink.informed_init _ _ _, fun _ => RobotLink.atHome_init _ _ _⟩
  have hsent : s.toTree.sent = messages es := RobotLink.sent_run hrun
  rw [hsent] at hinvariant
  by_cases hhealthy : ∃ msg ∈ messages es, 300 ≤ msg.hp.toNat
  · by_cases hseven : dataType = Talker.dataTypeSeven
    · exact .inr ⟨hseven, hhealthy⟩
    · -- a message of a 3v3 frame has no health
      obtain ⟨msg, hmsg, hhigh⟩ := hhealthy
      rw [RobotLink.three_run hrun hseven msg (hsent ▸ hmsg)] at hhigh
      exact absurd hhigh (by decide)
  · exact .inl (hinvariant.2 fun msg hmsg => not_le.1 fun hhigh => hhealthy ⟨msg, hmsg, hhigh⟩)

/-! A 3v3 frame comes, with the health 400 in it. -/

def threeRecord : Talker.RecordThree := ⟨300, 0, 400, 1, 200, 1, 400, 300, 1, 200, 1, 400⟩

/-- The tick of the serial node that reads it. -/
def threeTick : Talker.Tick := ⟨none, .ok ⟨24, Talker.codecThree.frame threeRecord, by decide⟩, 1⟩

/-- It has been read. -/
def threeRead : RobotLink :=
  (init Talker.dataTypeThree true 0 origin "" "").callback (.timer threeTick)

theorem threeRead_queue : threeRead.toTree.queue = [threeRecord.msg] := by decide +kernel

/-- The robot is sent home. -/
theorem departs_healthy_three :
    ∃ es s, Run (Step stopped ReceiveNode.Faithful)
        (init Talker.dataTypeThree true 0 origin "" "") es s ∧
      s.tree.world.goalPoses ≠ [] ∧ s.tree.AtHome origin := by
  have hrun : Run (Step stopped ReceiveNode.Faithful)
      (init Talker.dataTypeThree true 0 origin "" "") _ _ :=
    .cons (.talker _ (.timer threeTick) (by simp) fun _ => rfl)
      (.cons (.deliverMessage threeRead threeRead_queue) (.cons (.tick _) (.nil _)))
  refine ⟨_, _, hrun, by decide +kernel, ?_⟩
  exact (departs_healthy hrun).resolve_right fun h => absurd h.1 (by decide)

end Sentry.Robot
