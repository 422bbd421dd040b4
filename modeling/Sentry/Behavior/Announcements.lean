import Sentry.Behavior.Frame
import Sentry.Behavior.Preempt

/-!
# Announcements

What the tactical tree tells the rest of the robot. Its mode is published once in the life
of the program, in the tick of the first message, whatever branches are entered later
(`modes_once`): both nodes `SetSentryMode` command the mode `move`, and they share the
entry of the blackboard that suppresses a mode that was published before.

The label of a branch is published just when the branch is entered, and after every tick
with a message, the last label is that of the branch that the message demands
(`labels_current`).
-/

namespace Sentry.Behavior

open BehaviorTree (Status Node)
open BehaviorTree.Node
open Sentry.Talker (SerialReceiveData)
open Transition (Run)

/-! ## Modes -/

/-- The topic of the modes: `mode_topic`, unless it is empty. -/
def modeTopic (zoneModeTopic : String) : String :=
  if zoneModeTopic = "" then "/sentry_mode_cmd" else zoneModeTopic

/-- No node has chosen a mode. -/
structure World.Silent (w : World) : Prop where
  mode : w.board.mode = {}
  modeNodes : w.modeNodes = fun _ => {}
  modes : w.modes = []

/-- The mode `move` was published, once, and no fallback is active. -/
structure World.Moving (w : World) : Prop where
  current : w.board.mode.currentSentryMode = 3
  name : w.board.mode.currentSentryModeName = "move"
  override : w.board.mode.sentryModeOverrideActive = false
  modes : w.modes = [(modeTopic w.board.zoneModeTopic, 3)]

/-- The label that a visit publishes. -/
def announced : Leaf × World → Option String
  | (.announceBehavior branch, _) => some (label branch)
  | _ => none

/-- The last label published is that of a branch, and so is the one on the blackboard. -/
structure World.Labelled (w : World) (branch : Branch) : Prop where
  board : w.board.currentBehaviorLabel = label branch
  published : w.labels.getLast? = some (label branch)

section

variable {env : Env} {w w' : World} {visits : List (Leaf × World)} {branch : Branch}

/-- The first mode that is set is published. -/
theorem World.Silent.setSentryMode (h : w.Silent) (env : Env) (branch : Branch) :
    (w.setSentryMode env branch).2.Moving := by
  obtain ⟨hmode, hnodes, hmodes⟩ := h
  constructor <;>
    simp [World.setSentryMode, SetSentryMode.tick, SetSentryMode.modeToValue,
      SetSentryMode.select, SetSentryMode.publish, hmode, hnodes, hmodes, modeTopic]

/-- After it, no mode is published. -/
theorem World.Moving.setSentryMode (h : w.Moving) (env : Env) (branch : Branch) :
    (w.setSentryMode env branch).2.Moving := by
  obtain ⟨hcurrent, hname, hoverride, hmodes⟩ := h
  by_cases hdesired : w.board.mode.desiredSentryModeName = "move" <;>
    constructor <;>
      simp [World.setSentryMode, SetSentryMode.tick, SetSentryMode.modeToValue,
        SetSentryMode.select, SetSentryMode.publish, hdesired, hcurrent, hname, hoverride, hmodes]

/-- What the leaves other than `SetSentryMode` and `AnnounceBehavior` leave alone. -/
structure Untold (w w' : World) : Prop where
  mode : w'.board.mode = w.board.mode
  zoneModeTopic : w'.board.zoneModeTopic = w.board.zoneModeTopic
  modeNodes : w'.modeNodes = w.modeNodes
  modes : w'.modes = w.modes
  currentBehaviorLabel : w'.board.currentBehaviorLabel = w.board.currentBehaviorLabel
  labels : w'.labels = w.labels

theorem Untold.silent (h : Untold w w') (hw : w.Silent) : w'.Silent :=
  ⟨h.mode.trans hw.mode, h.modeNodes.trans hw.modeNodes, h.modes.trans hw.modes⟩

theorem Untold.moving (h : Untold w w') (hw : w.Moving) : w'.Moving :=
  ⟨h.mode ▸ hw.current, h.mode ▸ hw.name, h.mode ▸ hw.override,
    by rw [h.modes, h.zoneModeTopic, hw.modes]⟩

/-- A leaf sets the mode, announces a branch, or tells nothing. -/
theorem tick_told (env : Env) (l : Leaf) (status : Status) (w : World) :
    (∃ branch, l = .setSentryMode branch) ∨ (∃ branch, l = .announceBehavior branch) ∨
      announced (l, w) = none ∧ Untold w ((sem env l).tick status w).2 := by
  by_cases hmode : ∃ branch, l = .setSentryMode branch
  · exact .inl hmode
  by_cases hlabel : ∃ branch, l = .announceBehavior branch
  · exact .inr (.inl hlabel)
  have hframe := tick_frame env l status w
  obtain ⟨hboard, hnodes, hmodes⟩ := hframe.modes (not_exists.1 hmode)
  obtain ⟨hcurrent, hlabels⟩ := hframe.labels (not_exists.1 hlabel)
  refine .inr (.inr ⟨?_, hboard, hframe.zoneModeTopic, hnodes, hmodes, hcurrent, hlabels⟩)
  cases l with
  | announceBehavior branch => exact absurd ⟨branch, rfl⟩ hlabel
  | _ => rfl

/-- The topic of the modes stays. -/
theorem run_zoneModeTopic (h : Run (LeafStep (sem env)) w visits w') :
    w'.board.zoneModeTopic = w.board.zoneModeTopic := by
  induction h with
  | nil w => rfl
  | cons hstep _ ih =>
    obtain ⟨l, status, rfl, rfl⟩ := hstep
    rw [ih, (tick_frame env l status _).zoneModeTopic]

/-- Once the mode was published, the visits publish none. -/
theorem moving_run (h : Run (LeafStep (sem env)) w visits w') (hw : w.Moving) : w'.Moving := by
  refine h.invariant (I := World.Moving) ?_ hw
  rintro w visits w' hw ⟨l, status, rfl, rfl⟩
  rcases tick_told env l status w with ⟨branch, rfl⟩ | ⟨branch, rfl⟩ | ⟨-, huntold⟩
  · exact hw.setSentryMode env branch
  · exact ⟨hw.current, hw.name, hw.override, hw.modes⟩
  · exact huntold.moving hw

/-- The first visit of a node `SetSentryMode` publishes the mode. -/
theorem moving_of_visit (h : Run (LeafStep (sem env)) w visits w') (hw : w.Silent)
    (hvisit : ∃ visit ∈ visits, visit.1 = .setSentryMode branch) : w'.Moving := by
  induction h with
  | nil w => simp at hvisit
  | cons hstep hrun ih =>
    obtain ⟨l, status, rfl, rfl⟩ := hstep
    rcases tick_told env l status _ with ⟨branch', rfl⟩ | ⟨branch', rfl⟩ | ⟨-, huntold⟩
    · exact moving_run hrun (hw.setSentryMode env branch')
    · exact ih ⟨hw.mode, hw.modeNodes, hw.modes⟩ (by simpa using hvisit)
    · rcases hvisit with ⟨visit, hvisit, hleaf⟩
      rcases List.mem_append.1 hvisit with hvisit | hvisit
      · rw [List.mem_singleton.1 hvisit] at hleaf
        exact moving_run hrun ((congrArg (fun l => ((sem env l).tick status _).2) hleaf) ▸
          hw.setSentryMode env branch)
      · exact ih (huntold.silent hw) ⟨visit, hvisit, hleaf⟩

/-- The visits publish their labels. -/
theorem run_labels (h : Run (LeafStep (sem env)) w visits w') :
    w'.labels = w.labels ++ visits.filterMap announced ∧
      w'.board.currentBehaviorLabel =
        (visits.filterMap announced).getLast?.getD w.board.currentBehaviorLabel := by
  induction h with
  | nil w => simp
  | cons hstep _ ih =>
    obtain ⟨l, status, rfl, rfl⟩ := hstep
    obtain ⟨hlabels, hboard⟩ := ih
    rw [hlabels, hboard, List.filterMap_append]
    rcases tick_told env l status _ with ⟨branch, rfl⟩ | ⟨branch, rfl⟩ | ⟨hnone, huntold⟩
    · exact ⟨rfl, rfl⟩
    · simp [announced, World.announceBehavior, List.getLast?_cons]
    · rw [huntold.labels, huntold.currentBehaviorLabel]
      simp [hnone]

/-! ## Labels of a move -/

theorem announced_homeNodeMove (env : Env) (w : World) (phase : Phase) :
    (homeNodeMove env w phase).visits.filterMap announced =
      if phase = .home then [] else [label .home] := by
  rw [homeNodeMove]
  split <;> rfl

theorem announced_pauseMove (env : Env) (status : Status) (w : World) :
    (pauseMove env status w).visits.filterMap announced = [] := by
  simp only [pauseMove]
  split <;> rfl

theorem announced_driveMove (env : Env) (w : World) :
    (driveMove env w).visits.filterMap announced = [] := by
  simp only [driveMove]
  split
  · exact announced_pauseMove env .idle _
  · rfl

theorem announced_lapMove (env : Env) (w : World) :
    (lapMove env w).visits.filterMap announced = [] := by
  simp only [lapMove]
  split <;> rfl

theorem announced_patrolMove (env : Env) (w : World) :
    (patrolMove env w).visits.filterMap announced = [label .patrol] := by
  simp only [patrolMove]
  split
  · exact congrArg (label .patrol :: ·) (announced_lapMove env _)
  · rfl

/-- The patrol branch announces itself when it starts. -/
theorem announced_patrolNodeMove (env : Env) (w : World) (phase : Phase) :
    (patrolNodeMove env w phase).visits.filterMap announced =
      if phase = .idle ∨ phase = .home then [label .patrol] else [] := by
  cases phase with
  | idle | home => exact announced_patrolMove env w
  | drive => exact announced_driveMove env w
  | pause => exact announced_pauseMove env .running w
  | lap => exact announced_lapMove env w

end

/-! ## Ticks -/

/-- The branch that a message demands. -/
def demanded (msg : SerialReceiveData) : Branch :=
  if (msg.hp.toNat : ℚ) < 300 then .home else .patrol

/-- A branch that is running was announced last. -/
def State.Announced (s : State) : Prop :=
  ∀ branch, ¬Still branch s.tree → s.world.Labelled branch

section

variable {env : Env} {s : State} {root : Status} {phase : Phase} {msg : SerialReceiveData}
  {msgs : List SerialReceiveData}

/-- The health in the message chooses the branch of the move. -/
theorem iterate_message (env : Env) (htree : s.tree = phase.tree root)
    (hmsg : (s.world.deliver msgs).writer = .callback msg) :
    ∃ w root' m, m = (match demanded msg with
        | .home => homeNodeMove env w phase
        | .patrol => patrolNodeMove env w phase) ∧
      s.iterate env msgs = ([(.writeToBlackboard, s.world.deliver msgs), (.hpCondition, w)] ++
        m.visits, ⟨m.phase.tree root', m.world⟩) := by
  obtain ⟨root', hiter⟩ := State.iterate_tree env htree msgs
  have hmove := move_message env phase (w := s.world.deliver msgs) (by rw [hmsg]; rfl)
  have hhp : (s.world.deliver msgs).writer.hp = msg.hp.toNat := by rw [hmsg]; rfl
  rw [hhp] at hmove
  refine ⟨(s.world.deliver msgs).writeToBlackboard.2, root', _, rfl, ?_⟩
  rw [hiter, hmove, demanded]
  split <;> rfl

/-- A branch is announced when it is entered. -/
theorem announced_iterate (env : Env) (htree : s.tree = phase.tree root)
    (hmsg : (s.world.deliver msgs).writer = .callback msg) :
    (s.iterate env msgs).1.filterMap announced =
      if Still (demanded msg) s.tree then [label (demanded msg)] else [] := by
  obtain ⟨w, root', m, rfl, hiter⟩ := iterate_message env htree hmsg
  rw [hiter, List.filterMap_append, htree]
  cases demanded msg with
  | home =>
    rw [announced_homeNodeMove]
    by_cases hphase : phase = .home <;> simp [announced, still_home, hphase]
  | patrol =>
    rw [announced_patrolNodeMove]
    by_cases hphase : phase = .idle ∨ phase = .home <;> simp [announced, still_patrol, hphase]

/-- After a tick with a message, the label is that of the branch it demands. -/
theorem labelled_iterate (env : Env) (htree : s.tree = phase.tree root)
    (hmsg : (s.world.deliver msgs).writer = .callback msg) (h : s.Announced) :
    (s.iterate env msgs).2.world.Labelled (demanded msg) := by
  obtain ⟨hlabels, hboard⟩ := run_labels (s.iterate_run env msgs)
  rw [announced_iterate env htree hmsg, World.deliver_eq] at hlabels hboard
  by_cases hstill : Still (demanded msg) s.tree
  · rw [if_pos hstill] at hlabels hboard
    exact ⟨hboard, by simp [hlabels]⟩
  · rw [if_neg hstill, List.append_nil] at hlabels
    rw [if_neg hstill] at hboard
    obtain ⟨hboard', hpublished⟩ := h _ hstill
    exact ⟨hboard.trans hboard', hlabels ▸ hpublished⟩

/-- At most the branch that the message demands is running after a tick. -/
theorem still_iterate (env : Env) (htree : s.tree = phase.tree root)
    (hmsg : (s.world.deliver msgs).writer = .callback msg) {branch : Branch}
    (hbranch : ¬Still branch (s.iterate env msgs).2.tree) : branch = demanded msg := by
  have hobeys := obeys_iterate env htree hmsg
  rw [Obeys] at hobeys
  rw [demanded]
  split at hobeys
  next hlow =>
    rw [if_pos hlow]
    cases branch with
    | home => rfl
    | patrol => exact absurd hobeys.1 hbranch
  next hhigh =>
    rw [if_neg hhigh]
    cases branch with
    | home => exact absurd hobeys.1 hbranch
    | patrol => rfl

end

/-- Without a message, an iteration changes nothing, but that no branch is running. -/
theorem iterate_noMessage (env : Env) {s : State} {root : Status} {phase : Phase}
    (htree : s.tree = phase.tree root) (hread : s.world.writer.isReadInterface = false) :
    ∃ root', s.iterate env [] = ([(.writeToBlackboard, s.world)],
      ⟨Phase.idle.tree root', s.world⟩) := by
  obtain ⟨root', hiter⟩ := State.iterate_tree env htree []
  have hmove : move env phase (s.world.deliver []) =
      ⟨[(.writeToBlackboard, s.world)], .idle, s.world⟩ := move_noMessage env phase hread
  exact ⟨root', by rw [hiter, hmove]⟩

/-! ## Runs -/

/-- What has been told, before the first message and after it. -/
structure State.Tells (s : State) (msg : Option SerialReceiveData) : Prop where
  announced : s.Announced
  silent : msg = none → s.world.Silent ∧ s.world.labels = [] ∧
    s.world.board.currentBehaviorLabel = "" ∧ ∃ root, s.tree = Phase.idle.tree root
  moving : msg.isSome → s.world.Moving

/-- The first message sets the mode, whatever branch it demands. -/
theorem moving_iterate (env : Env) {s : State} {root : Status} {msg : SerialReceiveData}
    {msgs : List SerialReceiveData} (htree : s.tree = Phase.idle.tree root)
    (hmsg : (s.world.deliver msgs).writer = .callback msg) (hw : s.world.Silent) :
    (s.iterate env msgs).2.world.Moving := by
  obtain ⟨w, root', m, rfl, hiter⟩ := iterate_message env htree hmsg
  have hvisit : ∃ visit ∈ (s.iterate env msgs).1, visit.1 = .setSentryMode (demanded msg) := by
    rw [hiter]
    cases demanded msg with
    | home => exact ⟨(.setSentryMode .home, w), by simp [homeNodeMove, goHomeMove], rfl⟩
    | patrol =>
      refine ⟨(.setSentryMode .patrol, w), ?_, rfl⟩
      simp only [patrolNodeMove, patrolMove]
      split <;> simp [Move.after]
  refine moving_of_visit (s.iterate_run env msgs) ?_ hvisit
  rw [World.deliver_eq]
  exact ⟨hw.mode, hw.modeNodes, hw.modes⟩

variable (env : Env) (homePosition : PoseStamped) (zoneModeTopic frontPatrolCsv : String)

/-- The state after a run has told what its messages demand. -/
theorem init_tells (inputs : List (List SerialReceiveData)) :
    ((State.init homePosition zoneModeTopic frontPatrolCsv).run env inputs).2.Tells
      (latest inputs) := by
  induction inputs using List.reverseRecOn with
  | nil =>
    refine ⟨fun branch hbranch => ?_, fun _ => ⟨⟨rfl, rfl, rfl⟩, rfl, rfl, .idle, rfl⟩,
      by simp [latest]⟩
    have hstill : Still branch mainTree := by cases branch <;> decide
    exact absurd hstill hbranch
  | append_singleton inputs msgs ih =>
    obtain ⟨root, phase, htree⟩ := init_tree env homePosition zoneModeTopic frontPatrolCsv inputs
    rw [State.run_append]
    cases hmsg : latest (inputs ++ [msgs]) with
    | none =>
      obtain ⟨rfl, hinputs⟩ : msgs = [] ∧ ∀ msgs ∈ inputs, msgs = [] := by
        simpa [latest, or_imp, forall_and] using hmsg
      have hnone : latest inputs = none := by simpa [latest] using hinputs
      obtain ⟨hsilent, hlabels, hboard, -⟩ := ih.silent hnone
      have hwriter :=
        (State.run_world env (State.init homePosition zoneModeTopic frontPatrolCsv) inputs).1
      obtain ⟨root', hiter⟩ := iterate_noMessage env htree (by rw [hwriter, hnone]; rfl)
      rw [State.run, State.run, hiter]
      refine ⟨fun branch hbranch => ?_, fun _ => ⟨hsilent, hlabels, hboard, root', rfl⟩,
        by simp⟩
      refine absurd ?_ hbranch
      cases branch
      · exact (still_home root' .idle).2 (by simp)
      · exact (still_patrol root' .idle).2 (.inl rfl)
    | some msg =>
      have hdeliver := init_deliver env homePosition zoneModeTopic frontPatrolCsv hmsg
      refine ⟨fun branch hbranch => ?_, by simp, fun _ => ?_⟩
      · rw [still_iterate env htree hdeliver hbranch]
        exact labelled_iterate env htree hdeliver ih.announced
      · cases hlast : latest inputs with
        | none =>
          obtain ⟨hsilent, -, -, root', htree'⟩ := ih.silent hlast
          exact moving_iterate env htree' hdeliver hsilent
        | some msg' =>
          refine moving_run (State.iterate_run env _ msgs) ?_
          obtain ⟨hcurrent, hname, hoverride, hmodes⟩ := ih.moving (by simp [hlast])
          rw [World.deliver_eq]
          exact ⟨hcurrent, hname, hoverride, hmodes⟩

/-- The topic of the modes is that of the parameter, at all times. -/
theorem init_zoneModeTopic (inputs : List (List SerialReceiveData)) :
    ((State.init homePosition zoneModeTopic frontPatrolCsv).run env
      inputs).2.world.board.zoneModeTopic = zoneModeTopic := by
  induction inputs using List.reverseRecOn with
  | nil => rfl
  | append_singleton inputs msgs ih =>
    rw [State.run_append]
    refine (run_zoneModeTopic (State.iterate_run env _ msgs)).trans ?_
    rw [World.deliver_eq]
    exact ih

/-- In the life of the program, the mode is published once: in the tick of the first
    message. -/
theorem modes_once (inputs : List (List SerialReceiveData)) :
    ((State.init homePosition zoneModeTopic frontPatrolCsv).run env inputs).2.world.modes =
      match latest inputs with
      | none => []
      | some _ => [(modeTopic zoneModeTopic, 3)] := by
  have htells := init_tells env homePosition zoneModeTopic frontPatrolCsv inputs
  cases hlast : latest inputs with
  | none => exact (htells.silent hlast).1.modes
  | some msg =>
    rw [(htells.moving (by simp [hlast])).modes, init_zoneModeTopic]

/-- A tick announces the branch that the last message demands, just when the branch was not
    running; after it, this branch is the one announced last. -/
theorem labels_current (inputs : List (List SerialReceiveData)) (msgs : List SerialReceiveData) :
    let before := ((State.init homePosition zoneModeTopic frontPatrolCsv).run env inputs).2
    let after := (before.iterate env msgs).2
    match latest (inputs ++ [msgs]) with
    | none => after.world.labels = [] ∧ after.world.board.currentBehaviorLabel = ""
    | some msg =>
      after.world.labels = before.world.labels ++
        (if Still (demanded msg) before.tree then [label (demanded msg)] else []) ∧
      after.world.labels.getLast? = some (label (demanded msg)) ∧
      after.world.board.currentBehaviorLabel = label (demanded msg) := by
  intro before after
  have htells := init_tells env homePosition zoneModeTopic frontPatrolCsv inputs
  cases hmsg : latest (inputs ++ [msgs]) with
  | none =>
    have htells' := init_tells env homePosition zoneModeTopic frontPatrolCsv (inputs ++ [msgs])
    rw [State.run_append] at htells'
    obtain ⟨-, hlabels, hboard, -⟩ := htells'.silent hmsg
    exact ⟨hlabels, hboard⟩
  | some msg =>
    obtain ⟨root, phase, htree⟩ := init_tree env homePosition zoneModeTopic frontPatrolCsv inputs
    have hdeliver := init_deliver env homePosition zoneModeTopic frontPatrolCsv hmsg
    obtain ⟨hboard, hpublished⟩ := labelled_iterate env htree hdeliver htells.announced
    have hlabels := (run_labels (before.iterate_run env msgs)).1
    rw [announced_iterate env htree hdeliver, World.deliver_eq] at hlabels
    exact ⟨hlabels, hpublished, hboard⟩

end Sentry.Behavior
