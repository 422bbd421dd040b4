import Sentry.Robot.Link

/-!
# The mode that the robot is told

The tree publishes the mode `move` once in the life of the program, and the serial node puts
the mode it has in every packet. So the mode in the packets changes at most once in a run of
the whole robot, from 0 to that of `move`, whatever is lost, and whatever the port does: when
the single message with the mode comes to the serial node. If this message is lost, the mode is
never sent again (`packets_move`).
-/

namespace Sentry.Robot

open Behavior (Env Phase PoseStamped State WriteToBlackboard modeTopic)
open Talker (Byte Event Input ReceiveNode)
open Transition (Run)

/-- An event is no packet, or a packet with the mode. -/
def SaysMode (mode : ℤ) (e : Event) : Prop :=
  ∀ packet, e = .written packet → ∃ c, Talker.decodeCommands packet = some c ∧ c.mode = mode

namespace RobotLink

variable {env : Env} {port : ReceiveNode → Input → Prop} {s s' : RobotLink} {es : List Event}
  {homePosition : PoseStamped} {zoneModeTopic frontPatrolCsv : String}

/-- The messages that were published on the topic of the mode command. -/
def commanded (modes : List (String × ℤ)) : List (BitVec 32) :=
  modes.filterMap fun msg =>
    if ModeLink.fullName msg.1 = "/sentry_mode_cmd" then some (BitVec.ofInt 32 msg.2) else none

theorem foldl_publish (channel : Channel (BitVec 32) 10) (modes : List (String × ℤ)) :
    (modes.foldl (fun channel msg => ModeLink.publish channel (some msg)) channel).sent =
        channel.sent ++ commanded modes ∧
      (modes.foldl (fun channel msg => ModeLink.publish channel (some msg)) channel).received =
        channel.received := by
  induction modes generalizing channel with
  | nil => simp [commanded]
  | cons msg modes ih =>
    obtain ⟨hsent, hreceived⟩ := ih (ModeLink.publish channel (some msg))
    rw [List.foldl_cons, hsent, hreceived, ModeLink.publish_received]
    refine ⟨?_, rfl⟩
    by_cases htopic : ModeLink.fullName msg.1 = "/sentry_mode_cmd"
    · simp [ModeLink.publish, commanded, htopic, Channel.send]
    · simp [ModeLink.publish, commanded, htopic]

/-- The tree has published no mode yet, and its branches are idle; or it has published `move`.
    The serial node has the mode that came from there. -/
structure Told (s : RobotLink) : Prop where
  silent : s.tree.world.modes = [] → s.tree.world.Silent ∧
    ∃ root, s.tree.tree = Phase.idle.tree root
  moving : s.tree.world.modes ≠ [] → s.tree.world.Moving
  sent : s.toTalker.sent = commanded s.tree.world.modes
  waiting : s.toTalker.received = [] → s.talker.cachedSentryMode = 0
  received : s.toTalker.received ≠ [] → s.talker.cachedSentryMode = 3

/-- At most `move` is sent to the serial node. -/
theorem Told.sent_cases (h : s.Told) : s.toTalker.sent = [] ∨ s.toTalker.sent = [3] := by
  rw [h.sent]
  by_cases hmodes : s.tree.world.modes = []
  · exact .inl (by rw [hmodes]; rfl)
  · rw [(h.moving hmodes).modes, commanded]
    by_cases htopic : ModeLink.fullName (modeTopic s.tree.world.board.zoneModeTopic) =
        "/sentry_mode_cmd"
    · exact .inr (by simp [htopic])
    · exact .inl (by simp [htopic])

/-- So what is received and what waits is at most `move`. -/
theorem Told.channel_cases (h : s.Told) :
    s.toTalker.received ++ s.toTalker.queue = [] ∨
      s.toTalker.received ++ s.toTalker.queue = [3] := by
  have hsub := s.toTalker.sublist
  rcases h.sent_cases with hsent | hsent <;> rw [hsent] at hsub
  · exact .inl (List.sublist_nil.1 hsub)
  · exact List.sublist_singleton.1 hsub

/-- Once `move` was received, nothing waits. -/
theorem Told.queue_eq (h : s.Told) {m : BitVec 32} {queue : List (BitVec 32)}
    (hqueue : s.toTalker.queue = m :: queue) :
    s.toTalker.received = [] ∧ m = 3 ∧ queue = [] := by
  rcases h.channel_cases with hcases | hcases
  · simp [hqueue] at hcases
  · rw [hqueue] at hcases
    rcases List.append_eq_singleton_iff.1 hcases with ⟨hreceived, hq⟩ | ⟨-, hq⟩
    · exact ⟨hreceived, (List.cons.inj hq).1, (List.cons.inj hq).2⟩
    · exact absurd hq (List.cons_ne_nil _ _)

/-- Delivering a message tells nothing. -/
theorem silent_deliver {w : Behavior.World} {msgs : List Talker.SerialReceiveData}
    (h : w.Silent) : (w.deliver msgs).Silent := by
  rw [Behavior.World.deliver_eq]
  exact ⟨h.mode, h.modeNodes, h.modes⟩

theorem moving_deliver {w : Behavior.World} {msgs : List Talker.SerialReceiveData}
    (h : w.Moving) : (w.deliver msgs).Moving := by
  rw [Behavior.World.deliver_eq]
  exact ⟨h.current, h.name, h.override, h.modes⟩

/-- A tick before the first mode publishes it, or is idle. -/
theorem Informed.iterate_silent (h : s.Informed homePosition zoneModeTopic) (env : Env)
    (hsilent : s.tree.world.Silent) {root : BehaviorTree.Status}
    (htree : s.tree.tree = Phase.idle.tree root) :
    (s.tree.iterate env []).2.world.Moving ∨
      (s.tree.iterate env []).2.world = s.tree.world ∧
        ∃ root, (s.tree.iterate env []).2.tree = Phase.idle.tree root := by
  cases hlast : s.toTree.received.getLast? with
  | none =>
    have hwriter := h.writer
    rw [hlast] at hwriter
    obtain ⟨root', hiter⟩ := Behavior.iterate_noMessage env htree (by rw [hwriter]; rfl)
    rw [hiter]
    exact .inr ⟨rfl, root', rfl⟩
  | some msg =>
    have hwriter := h.writer
    rw [hlast] at hwriter
    have hmsg : (s.tree.world.deliver []).writer = .callback msg := hwriter
    exact .inl (Behavior.moving_iterate env htree hmsg hsilent)

/-- Once a mode was published, a tick publishes no other one. -/
theorem Told.tick_moving (h : s.Told) (hmodes : s.tree.world.modes ≠ []) (env : Env) :
    (s.tick env).tree.world.Moving ∧
      (s.tick env).tree.world.modes = s.tree.world.modes ∧ (s.tick env).toTalker = s.toTalker := by
  have hmoving : (s.tick env).tree.world.Moving :=
    Behavior.moving_run (s.tree.iterate_run env []) (moving_deliver (h.moving hmodes))
  have htopic : (s.tick env).tree.world.board.zoneModeTopic =
      s.tree.world.board.zoneModeTopic := (tick_world s.tree env).2.2
  have hsame : (s.tick env).tree.world.modes = s.tree.world.modes := by
    rw [hmoving.modes, (h.moving hmodes).modes, htopic]
  have hnew : (s.tree.iterate env []).2.world.modes = s.tree.world.modes := hsame
  refine ⟨hmoving, hsame, ?_⟩
  rw [RobotLink.tick, hnew, List.drop_length]
  rfl

/-- A tick of the tree tells at most the first mode. -/
theorem Told.tick (h : s.Told) (hinformed : s.Informed homePosition zoneModeTopic) (env : Env) :
    (s.tick env).Told := by
  have hnext : ((s.tick env).tree.world.modes = [] → (s.tick env).tree.world.Silent ∧
        ∃ root, (s.tick env).tree.tree = Phase.idle.tree root) ∧
      ((s.tick env).tree.world.modes ≠ [] → (s.tick env).tree.world.Moving) ∧
      s.tree.world.modes <+: (s.tick env).tree.world.modes := by
    by_cases hmodes : s.tree.world.modes = []
    · obtain ⟨hsilent, root, htree⟩ := h.silent hmodes
      rcases hinformed.iterate_silent env hsilent htree with hmoving | ⟨hworld, hidle⟩
      · exact ⟨fun hnil => absurd (hmoving.modes.symm.trans hnil) (by simp), fun _ => hmoving,
          hmodes ▸ List.nil_prefix⟩
      · have hworld : (s.tick env).tree.world = s.tree.world := hworld
        rw [hworld]
        exact ⟨fun _ => ⟨hsilent, hidle⟩, h.moving, List.prefix_rfl⟩
    · obtain ⟨hmoving, hsame, -⟩ := h.tick_moving hmodes env
      exact ⟨fun hnil => absurd (hsame.symm.trans hnil) hmodes, fun _ => hmoving,
        hsame ▸ List.prefix_rfl⟩
  obtain ⟨hsilent, hmoving, new, hnew⟩ := hnext
  have hdrop : (s.tick env).tree.world.modes.drop s.tree.world.modes.length = new := by
    rw [← hnew, List.drop_left]
  obtain ⟨hsent, hreceived⟩ := foldl_publish s.toTalker new
  rw [← hdrop] at hsent hreceived
  refine ⟨hsilent, hmoving, hsent.trans ?_, fun hnil => h.waiting (hreceived.symm.trans hnil),
    fun hne => h.received (hreceived ▸ hne)⟩
  rw [h.sent, hdrop, ← hnew, commanded, commanded, commanded, List.filterMap_append]

/-- A step keeps what was told. -/
theorem Told.step (h : s.Told) (hinformed : s.Informed homePosition zoneModeTopic)
    (hstep : LossyStep env port s es s') : s'.Told := by
  cases hstep with
  | step hstep =>
    cases hstep with
    | talker i hi =>
      have hmode := s.talker.step_cachedSentryMode hi
      exact ⟨h.silent, h.moving, h.sent, fun hnil => hmode.trans (h.waiting hnil),
        fun hne => hmode.trans (h.received hne)⟩
    | loseMessage | loseMode => exact ⟨h.silent, h.moving, h.sent, h.waiting, h.received⟩
    | deliverMessage =>
      exact ⟨fun hnil => ⟨silent_deliver (h.silent hnil).1, (h.silent hnil).2⟩,
        fun hne => moving_deliver (h.moving hne), h.sent, h.waiting, h.received⟩
    | tick => exact h.tick hinformed env
    | deliverMode hqueue =>
      obtain ⟨-, rfl, -⟩ := h.queue_eq hqueue
      refine ⟨h.silent, h.moving, h.sent, fun hnil => absurd hnil (by simp [Channel.receive]),
        fun _ => ?_⟩
      exact s.talker.sentryMode_cachedSentryMode 3
  | dropMessage | dropMode => exact ⟨h.silent, h.moving, h.sent, h.waiting, h.received⟩

/-- The packets of a step have the mode that the serial node has after it. -/
theorem LossyStep.saysMode (hstep : LossyStep env port s es s') :
    ∀ e ∈ es, SaysMode s'.talker.cachedSentryMode.toNat e := by
  rintro e he packet rfl
  cases hstep with
  | step hstep =>
    cases hstep with
    | talker | deliverMode => exact ReceiveNode.step_decode he
    | loseMessage | deliverMessage | tick | loseMode => exact absurd he List.not_mem_nil
  | dropMessage | dropMode => exact absurd he List.not_mem_nil

/-- Of a step: what it keeps, and the mode of its packets, before and after `move` is received. -/
theorem Told.speaks (h : s.Informed homePosition zoneModeTopic ∧ s.Told)
    (hstep : LossyStep env port s es s') :
    (s'.Informed homePosition zoneModeTopic ∧ s'.Told) ∧
      (s.toTalker.received ≠ [] → s'.toTalker.received ≠ []) ∧
      (¬s'.toTalker.received ≠ [] → ∀ e ∈ es, SaysMode 0 e) ∧
      (s'.toTalker.received ≠ [] → ∀ e ∈ es, SaysMode 3 e) := by
  have htold := h.2.step h.1 hstep
  have hsays := hstep.saysMode
  refine ⟨⟨h.1.lossyStep hstep, htold⟩, fun hne => ?_, fun hnil => ?_, fun hne => ?_⟩
  · cases hstep with
    | step hstep =>
      cases hstep with
      | talker | loseMessage | deliverMessage | loseMode => exact hne
      | tick => exact (foldl_publish s.toTalker _).2 ▸ hne
      | deliverMode => simp [Channel.receive]
    | dropMessage | dropMode => exact hne
  · rwa [htold.waiting (not_not.1 hnil)] at hsays
  · rwa [htold.received hne] at hsays

/-- The mode was published, and it is neither waiting nor received: it was lost, or it has gone
    to another topic. -/
structure Missed (s : RobotLink) : Prop where
  published : s.tree.world.modes ≠ []
  queue : s.toTalker.queue = []
  received : s.toTalker.received = []

/-- A mode that was missed is not published again. -/
theorem Missed.step (h : s.Missed) (htold : s.Told) (hstep : LossyStep env port s es s') :
    s'.Missed := by
  obtain ⟨hpublished, hqueue, hreceived⟩ := h
  cases hstep with
  | step hstep =>
    cases hstep with
    | talker | loseMessage | deliverMessage => exact ⟨hpublished, hqueue, hreceived⟩
    | tick =>
      obtain ⟨-, hsame, htoTalker⟩ := htold.tick_moving hpublished env
      exact ⟨hsame ▸ hpublished, htoTalker ▸ hqueue, htoTalker ▸ hreceived⟩
    | loseMode hwaits | deliverMode hwaits => exact absurd (hqueue.symm.trans hwaits) (by simp)
  | dropMessage => exact ⟨hpublished, hqueue, hreceived⟩
  | dropMode _ _ hwaits => exact absurd (hqueue.symm.trans hwaits) (by simp)

theorem told_init (dataType : String) (enableDownlinkReceive : Bool) (now : ℤ)
    (homePosition : PoseStamped) (zoneModeTopic frontPatrolCsv : String) :
    let s := init dataType enableDownlinkReceive now homePosition zoneModeTopic frontPatrolCsv
    s.Informed homePosition zoneModeTopic ∧ s.Told :=
  ⟨informed_init _ _ _, fun _ => ⟨⟨rfl, rfl, rfl⟩, .idle, rfl⟩, fun hne => absurd rfl hne, rfl,
    fun _ => rfl, fun hne => absurd rfl hne⟩

/-- Nothing is sent to the serial node if the modes go to another topic. -/
theorem Told.sent_eq_nil (h : s.Informed homePosition zoneModeTopic ∧ s.Told)
    (htopic : ModeLink.fullName (modeTopic zoneModeTopic) ≠ "/sentry_mode_cmd") :
    s.toTalker.sent = [] := by
  obtain ⟨hinformed, htold⟩ := h
  rw [htold.sent]
  by_cases hmodes : s.tree.world.modes = []
  · rw [hmodes]
    rfl
  · rw [(htold.moving hmodes).modes, hinformed.zoneModeTopic]
    simp [commanded, htopic]

/-! ## Runs -/

section

variable {dataType : String} {enableDownlinkReceive : Bool} {now : ℤ}

theorem told_run (hrun : Run (LossyStep env port) (init dataType enableDownlinkReceive now
    homePosition zoneModeTopic frontPatrolCsv) es s) :
    s.Informed homePosition zoneModeTopic ∧ s.Told :=
  hrun.invariant (I := fun s => s.Informed homePosition zoneModeTopic ∧ s.Told)
    (fun _ _ _ h hstep => (Told.speaks h hstep).1) (told_init _ _ _ _ _ _)

/-- The packets have the mode 0, then that of `move`, if the serial node has received it. -/
theorem packets_split (hrun : Run (LossyStep env port) (init dataType enableDownlinkReceive now
    homePosition zoneModeTopic frontPatrolCsv) es s) :
    ∃ before after, es = before ++ after ∧ (∀ e ∈ before, SaysMode 0 e) ∧
      (∀ e ∈ after, SaysMode 3 e) ∧ (s.toTalker.received = [] → after = []) := by
  obtain ⟨before, after, hes, hbefore, hafter, -, hend⟩ :=
    hrun.split (fun _ _ _ h hstep => Told.speaks h hstep) (told_init _ _ _ _ _ _)
  exact ⟨before, after, hes, hbefore, hafter, fun hnil => hend (not_not.2 hnil)⟩

/-- Before the serial node has received a mode, all packets have the mode 0. -/
theorem packets_silent (hrun : Run (LossyStep env port) (init dataType enableDownlinkReceive now
    homePosition zoneModeTopic frontPatrolCsv) es s) (hnil : s.toTalker.received = []) :
    ∀ e ∈ es, SaysMode 0 e := by
  obtain ⟨before, after, rfl, hbefore, -, hend⟩ := packets_split hrun
  rwa [hend hnil, List.append_nil]

/-- A mode that was missed is missed for ever. -/
theorem Missed.run (h : s.Missed) (htold : s.Informed homePosition zoneModeTopic ∧ s.Told)
    (hrun : Run (LossyStep env port) s es s') : s'.Missed :=
  (hrun.invariant
    (I := fun s => (s.Informed homePosition zoneModeTopic ∧ s.Told) ∧ s.Missed)
    (fun _ _ _ h hstep => ⟨(Told.speaks h.1 hstep).1, h.2.step h.1.2 hstep⟩) ⟨htold, h⟩).2

end

end RobotLink

open RobotLink (LossyStep Missed Step init Told)

/-- In every run, whatever is lost, the packets have the mode 0 up to some point, and from there
    on the mode of `move`. This point has come once the serial node has received a mode. It never
    comes if the mode that was published has been lost, or has gone to another topic. -/
theorem packets_move {env : Env} {port : ReceiveNode → Input → Prop} {dataType : String}
    {enableDownlinkReceive : Bool} {now : ℤ} {homePosition : PoseStamped}
    {zoneModeTopic frontPatrolCsv : String} {es : List Event} {s : RobotLink}
    (hrun : Run (LossyStep env port) (init dataType enableDownlinkReceive now homePosition
      zoneModeTopic frontPatrolCsv) es s) :
    (∃ before after, es = before ++ after ∧ (∀ e ∈ before, SaysMode 0 e) ∧
      ∀ e ∈ after, SaysMode 3 e) ∧
    (s.toTalker.received ≠ [] →
      ∀ es' s', Run (LossyStep env port) s es' s' → ∀ e ∈ es', SaysMode 3 e) ∧
    (s.Missed → ∀ es' s', Run (LossyStep env port) s es' s' → ∀ e ∈ es ++ es', SaysMode 0 e) ∧
    (ModeLink.fullName (modeTopic zoneModeTopic) ≠ "/sentry_mode_cmd" →
      ∀ e ∈ es, SaysMode 0 e) := by
  have htold := RobotLink.told_run hrun
  refine ⟨?_, fun hreceived es' s' hrun' => ?_, fun hmissed es' s' hrun' => ?_, fun htopic => ?_⟩
  · obtain ⟨before, after, hes, hbefore, hafter, -⟩ := RobotLink.packets_split hrun
    exact ⟨before, after, hes, hbefore, hafter⟩
  · -- what is received stays so, so no packet with the mode 0 comes first
    obtain ⟨before', after', rfl, -, hafter', hstart, -⟩ :=
      hrun'.split (fun _ _ _ h hstep => Told.speaks h hstep) htold
    rw [hstart hreceived]
    exact hafter'
  · exact RobotLink.packets_silent (hrun.trans hrun') (hmissed.run htold hrun').received
  · have hsub := s.toTalker.sublist
    rw [Told.sent_eq_nil htold htopic, List.sublist_nil, List.append_eq_nil_iff] at hsub
    exact RobotLink.packets_silent hrun hsub.1

theorem published_queue : (delivered.tick stopped).toTalker.queue = [3] := by decide +kernel

/-- The first mode has come to the serial node. -/
def moveTold : RobotLink :=
  { (delivered.tick stopped).callback (.sentryMode 3) with
    toTalker := (delivered.tick stopped).toTalker.receive published_queue }

/-- The first mode has been lost. -/
def moveLost : RobotLink :=
  { delivered.tick stopped with
    toTalker := (delivered.tick stopped).toTalker.drop [] [] published_queue }

/-- A velocity comes when the mode has come, and when it was lost. -/
theorem packets_move_told :
    (∃ es, Run (LossyStep stopped ReceiveNode.Faithful) moveTold es
        (moveTold.callback (.cmdVel ⟨1, 0, 0⟩ id)) ∧ es ≠ [] ∧ ∀ e ∈ es, SaysMode 3 e) ∧
      ∃ es, Run (LossyStep stopped ReceiveNode.Faithful) moveLost es
        (moveLost.callback (.cmdVel ⟨1, 0, 0⟩ id)) ∧ es ≠ [] ∧ ∀ e ∈ es, SaysMode 0 e := by
  obtain ⟨es, hdelivered⟩ := delivered_run
  have hticked := (hdelivered.trans (.single (.tick delivered))).mono fun _ _ _ =>
    LossyStep.step
  have htold := hticked.trans (.single (.step
    (.deliverMode (delivered.tick stopped) published_queue)))
  have hlost := hticked.trans (.single
    (.dropMode (delivered.tick stopped) [] [] published_queue))
  have hvelocity : ∀ s, Run (LossyStep stopped ReceiveNode.Faithful) s
      (s.talker.step (.cmdVel ⟨1, 0, 0⟩ id)).1 (s.callback (.cmdVel ⟨1, 0, 0⟩ id)) := fun s =>
    .single (.step (.talker s (.cmdVel ⟨1, 0, 0⟩ id) (by simp) trivial))
  refine ⟨⟨_, hvelocity moveTold, by decide +kernel, ?_⟩,
    ⟨_, hvelocity moveLost, by decide +kernel, fun e he => ?_⟩⟩
  · exact (packets_move htold).2.1 (by decide +kernel) _ _ (hvelocity moveTold)
  · exact (packets_move hlost).2.2.1 ⟨by decide +kernel, rfl, rfl⟩ _ _ (hvelocity moveLost) e
      (List.mem_append_right _ he)

end Sentry.Robot
