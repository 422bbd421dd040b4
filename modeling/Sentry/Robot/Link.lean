import Sentry.Behavior.Announcements
import Sentry.Robot.Health
import Sentry.Robot.Mode
import Sentry.Talker.RoundTrip
import Sentry.Talker.Session

/-!
# The whole robot

The serial node and the program of the tree, with both channels between them (`RobotLink`):
the messages of the frames go to the tree, and the modes that the tree selects go to the
serial node. Callbacks of the serial node, deliveries, losses and ticks of the tree come in
any order, and the serial library behaves in any way that `port` admits. The steps of the
system lose a message only for a newer one that waits (`Step`); with losses on the way, any
message that waits may be lost, the last one too (`LossyStep`).

The system carries the bytes that were read since the port was opened last. If every read
returns what was available, and the buffer is empty when an exception is thrown that does not
clear it, the buffer is what the parser left of these bytes, and the messages of their frames
are the last ones sent (`Receives`). So, once the last message has come, a tick of the tree
obeys the last complete frame that came through the port, wherever the reads cut the frames,
however often the port was lost before, and whatever other messages were lost
(`last_frame_obeyed`).
-/

namespace Sentry.Talker

open Framing

/-- One more tick. -/
theorem receiveAll_concat (parse : List Byte → List SerialReceiveData × List Byte)
    (buffer : List Byte) (chunks : List (List Byte)) (chunk : List Byte) :
    receiveAll parse buffer (chunks ++ [chunk]) =
      ((receiveAll parse buffer chunks).1 ++
        (receive parse (receiveAll parse buffer chunks).2 chunk).1,
        (receive parse (receiveAll parse buffer chunks).2 chunk).2) := by
  induction chunks generalizing buffer with
  | nil => simp [receiveAll]
  | cons c chunks ih => simp [receiveAll, ih]

end Sentry.Talker

namespace Sentry.Robot

open Behavior (Env Obeys Phase PoseStamped State WriteToBlackboard)
open Talker (Byte Delivery Event Input ReceiveNode SerialReceiveData receiveAll sessionAfter)
open Transition (Run)

/-! ## The system -/

/-- The two programs, the channels between them, and the bytes that were read since the port
    was opened last. -/
structure RobotLink where
  talker : ReceiveNode
  toTree : Channel SerialReceiveData 10 := .empty
  tree : State
  toTalker : Channel (BitVec 32) 10 := .empty
  session : List Byte := []

namespace RobotLink

/-- A callback of the serial node. -/
def callback (s : RobotLink) (i : Input) : RobotLink :=
  { s with
    talker := (s.talker.step i).2
    toTree := (messages (s.talker.step i).1).foldl Channel.send s.toTree
    session := sessionAfter s.session (s.talker.step i).1 }

/-- A tick of the tree. -/
def tick (s : RobotLink) (env : Env) : RobotLink :=
  { s with
    tree := (s.tree.iterate env []).2
    toTalker := ((s.tree.iterate env []).2.world.modes.drop s.tree.world.modes.length).foldl
      (fun channel msg => ModeLink.publish channel (some msg)) s.toTalker }

/-- The steps of the system, with the events of the serial node. -/
inductive Step (env : Env) (port : ReceiveNode → Input → Prop) :
    RobotLink → List Event → RobotLink → Prop
  /-- A velocity or a timer tick comes to the serial node. -/
  | talker (s : RobotLink) (i : Input) : (∀ data, i ≠ .sentryMode data) → port s.talker i →
      Step env port s (s.talker.step i).1 (s.callback i)
  /-- The oldest message is lost, while a newer one waits. -/
  | loseMessage (s : RobotLink) {m m' : SerialReceiveData} {queue : List SerialReceiveData}
      (h : s.toTree.queue = m :: m' :: queue) :
      Step env port s [] { s with toTree := s.toTree.lose h }
  /-- The oldest message comes to the tree. -/
  | deliverMessage (s : RobotLink) {m : SerialReceiveData} {queue : List SerialReceiveData}
      (h : s.toTree.queue = m :: queue) :
      Step env port s [] { s with
        toTree := s.toTree.receive h
        tree := { s.tree with world := s.tree.world.deliver [m] } }
  /-- The tree ticks. -/
  | tick (s : RobotLink) : Step env port s [] (s.tick env)
  /-- The oldest mode is lost, while a newer one waits. -/
  | loseMode (s : RobotLink) {m m' : BitVec 32} {queue : List (BitVec 32)}
      (h : s.toTalker.queue = m :: m' :: queue) :
      Step env port s [] { s with toTalker := s.toTalker.lose h }
  /-- The oldest mode comes to the serial node. -/
  | deliverMode (s : RobotLink) {m : BitVec 32} {queue : List (BitVec 32)}
      (h : s.toTalker.queue = m :: queue) :
      Step env port s (s.talker.step (.sentryMode m)).1
        { s.callback (.sentryMode m) with toTalker := s.toTalker.receive h }

/-- The steps of the system when any message may be lost on the way. -/
inductive LossyStep (env : Env) (port : ReceiveNode → Input → Prop) :
    RobotLink → List Event → RobotLink → Prop
  | step {s s' : RobotLink} {es : List Event} : Step env port s es s' → LossyStep env port s es s'
  /-- A message for the tree is lost. -/
  | dropMessage (s : RobotLink) {m : SerialReceiveData} (older newer : List SerialReceiveData)
      (h : s.toTree.queue = older ++ m :: newer) :
      LossyStep env port s [] { s with toTree := s.toTree.drop older newer h }
  /-- A mode for the serial node is lost. -/
  | dropMode (s : RobotLink) {m : BitVec 32} (older newer : List (BitVec 32))
      (h : s.toTalker.queue = older ++ m :: newer) :
      LossyStep env port s [] { s with toTalker := s.toTalker.drop older newer h }

/-- The system when it starts. -/
def init (dataType : String) (enableDownlinkReceive : Bool) (now : ℤ) (homePosition : PoseStamped)
    (zoneModeTopic frontPatrolCsv : String) : RobotLink where
  talker := .init dataType enableDownlinkReceive now
  tree := .init homePosition zoneModeTopic frontPatrolCsv

end RobotLink

/-! ## Reception -/

/-- The buffer is what is left of the bytes of the session, whose messages are the last ones
    of all; without a session, there is nothing. -/
structure Receives (n : ReceiveNode) (session : List Byte) (msgs : List SerialReceiveData) :
    Prop where
  chunks : ∃ chunks older, chunks.flatten = session ∧
    (receiveAll n.format.parse [] chunks).2 = n.buffer ∧
    msgs = older ++ (receiveAll n.format.parse [] chunks).1
  closed : n.isSerialOpen = false → n.buffer = [] ∧ session = []

section

variable {n n' : ReceiveNode} {session : List Byte} {msgs : List SerialReceiveData}

/-- Before a session, there are only older messages. -/
theorem receives_nil (hbuffer : n.buffer = []) : Receives n [] msgs where
  chunks := ⟨[], msgs, rfl, hbuffer.symm, (List.append_nil msgs).symm⟩
  closed _ := ⟨hbuffer, rfl⟩

/-- Events without a byte or a message, which change nothing of the reception. -/
theorem Receives.quiet (h : Receives n session msgs) (hformat : n'.format = n.format)
    (hbuffer : n'.buffer = n.buffer) (hopen : n'.isSerialOpen = n.isSerialOpen) {es : List Event}
    (hmsgs : messages es = []) (hsession : sessionAfter session es = session) :
    Receives n' (sessionAfter session es) (msgs ++ messages es) := by
  obtain ⟨chunks, closed⟩ := h
  rw [hsession, hmsgs, List.append_nil]
  exact ⟨by rwa [hformat, hbuffer], by rwa [hbuffer, hopen]⟩

/-- The events of a tick without a message or a byte. -/
theorem sendIdle_quiet (n : ReceiveNode) (now : ℤ) (session : List Byte) :
    messages (n.sendIdle now).1 = [] ∧ sessionAfter session (n.sendIdle now).1 = session := by
  rw [ReceiveNode.sendIdle]
  split <;> exact ⟨rfl, rfl⟩

theorem messages_append (es es' : List Event) :
    messages (es ++ es') = messages es ++ messages es' := List.filterMap_append

theorem messages_published (msgs : List SerialReceiveData) :
    messages (msgs.map .published) = msgs := by
  rw [messages, List.filterMap_map]
  exact List.filterMap_some

/-- The node once it has parsed what it read. -/
def parsed (n : ReceiveNode) (d : Delivery) : ReceiveNode :=
  { n with buffer := (n.parse (n.buffer ++ d.temp)).2 }

theorem serve_of_ok {t : Talker.Tick} {d : Delivery} (h : t.delivery = .ok d) :
    n.serve t = (.received d.bytes :: (n.parse (n.buffer ++ d.temp)).1.map .published ++
      ((parsed n d).sendIdle t.now).1, ((parsed n d).sendIdle t.now).2) := by
  rw [ReceiveNode.serve, h]
  rfl

/-- A read that returns what was available is one more chunk. -/
theorem Receives.read (h : Receives n session msgs) (hopen : n.isSerialOpen = true) {d : Delivery}
    (hlength : d.bytes.length = d.available) :
    Receives (parsed n d) (session ++ d.bytes) (msgs ++ (n.parse (n.buffer ++ d.temp)).1) := by
  obtain ⟨chunks, older, hsession, hbuffer, hmsgs⟩ := h.chunks
  have hparse : n.parse (n.buffer ++ d.temp) = Talker.receive n.format.parse n.buffer d.bytes := by
    rw [ReceiveNode.parse_eq, ReceiveNode.temp_of_length hlength]
    rfl
  have hreceived := Talker.receiveAll_concat n.format.parse [] chunks d.bytes
  rw [hbuffer, ← hparse] at hreceived
  have hformat : (parsed n d).format = n.format := rfl
  refine ⟨⟨chunks ++ [d.bytes], older, by rw [List.flatten_concat, hsession], ?_, ?_⟩,
    fun hclosed => absurd (hopen.symm.trans hclosed) (by decide)⟩
  · rw [hformat, hreceived]
    rfl
  · rw [hformat, hreceived, hmsgs, List.append_assoc]

/-- A served tick receives one more chunk, or ends the session. -/
theorem Receives.serve {t : Talker.Tick} (h : Receives n session msgs)
    (hopen : n.isSerialOpen = true)
    (hfaithful : match t.delivery with
      | .ok d => d.bytes.length = d.available
      | .error .io => True
      | .error .other => n.buffer = []) :
    Receives (n.serve t).2 (sessionAfter session (n.serve t).1)
      (msgs ++ messages (n.serve t).1) := by
  cases hdelivery : t.delivery with
  | error e =>
    rw [hdelivery] at hfaithful
    rw [ReceiveNode.serve, hdelivery]
    cases e with
    | io => exact receives_nil rfl
    | other => exact receives_nil hfaithful
  | ok d =>
    rw [hdelivery] at hfaithful
    obtain ⟨hquiet, hsame⟩ := sendIdle_quiet (parsed n d) t.now (session ++ d.bytes)
    obtain ⟨time, htime⟩ := (parsed n d).sendIdle_frame t.now
    have hsession : sessionAfter session (n.serve t).1 = session ++ d.bytes := by
      rw [serve_of_ok hdelivery, Talker.sessionAfter_append]
      exact (congrArg (fun s => sessionAfter s _) (Talker.sessionAfter_published _)).trans hsame
    have hmessages : messages (n.serve t).1 = (n.parse (n.buffer ++ d.temp)).1 := by
      rw [serve_of_ok hdelivery, messages_append, hquiet, List.append_nil]
      exact messages_published _
    rw [hsession, hmessages, serve_of_ok hdelivery, htime]
    have hread := h.read hopen hfaithful
    exact ⟨hread.chunks, hread.closed⟩

/-- A faithful step receives what it reads. -/
theorem Receives.step (h : Receives n session msgs) {i : Input} (hfaithful : n.Faithful i) :
    Receives (n.step i).2 (sessionAfter session (n.step i).1)
      (msgs ++ messages (n.step i).1) := by
  cases i with
  | cmdVel msg round =>
    simp only [ReceiveNode.step, ReceiveNode.cmdVelCallback]
    split <;> apply h.quiet <;> rfl
  | sentryMode data =>
    simp only [ReceiveNode.step, ReceiveNode.sentryModeCallback]
    split <;> apply h.quiet <;> rfl
  | timer t =>
    simp only [ReceiveNode.step, ReceiveNode.timerCallback]
    split
    · apply h.quiet <;> rfl
    next henable =>
      have henable : n.enableDownlinkReceive = true := by simpa using henable
      split
      next hopen => exact h.serve hopen (hfaithful ⟨henable, .inl hopen⟩)
      next hopen =>
        obtain ⟨hbuffer, rfl⟩ := h.closed (by simpa using hopen)
        split
        · apply h.quiet <;> rfl
        next hnone =>
          -- the session starts with an empty buffer
          exact (receives_nil (n := { n with
            isSerialOpen := true, reportedSerialOpenFailure := false }) hbuffer).serve
            rfl (hfaithful ⟨henable, .inr hnone⟩)

end

namespace RobotLink

/-! ## The messages of the tree -/

variable {env : Env} {port : ReceiveNode → Input → Prop} {s s' : RobotLink} {es : List Event}

/-- The tree has the last message delivered, and the parameters of the program. -/
structure Informed (homePosition : PoseStamped) (zoneModeTopic : String) (s : RobotLink) :
    Prop where
  writer : s.tree.world.writer =
    (s.toTree.received.getLast?.map WriteToBlackboard.callback).getD {}
  tree : ∃ root phase, s.tree.tree = Phase.tree root phase
  homePosition : s.tree.world.board.homePosition = homePosition
  zoneModeTopic : s.tree.world.board.zoneModeTopic = zoneModeTopic

variable {homePosition : PoseStamped} {zoneModeTopic frontPatrolCsv : String}

/-- A tick changes neither the last message nor the parameters. -/
theorem tick_world (s : State) (env : Env) :
    (s.iterate env []).2.world.writer = s.world.writer ∧
      (s.iterate env []).2.world.board.homePosition = s.world.board.homePosition ∧
      (s.iterate env []).2.world.board.zoneModeTopic = s.world.board.zoneModeTopic := by
  obtain ⟨⟨hwriter, -, hhome⟩, -⟩ := Behavior.run_frame (s.iterate_run env [])
  exact ⟨hwriter, hhome, Behavior.run_zoneModeTopic (s.iterate_run env [])⟩

/-- A step keeps the tree informed. -/
theorem Informed.step (h : s.Informed homePosition zoneModeTopic)
    (hstep : Step env port s es s') : s'.Informed homePosition zoneModeTopic := by
  obtain ⟨hwriter, htree, hhome, htopic⟩ := h
  cases hstep with
  | talker i =>
    refine ⟨?_, htree, hhome, htopic⟩
    rw [callback, (HealthLink.foldl_send _ _).2]
    exact hwriter
  | loseMessage | loseMode => exact ⟨hwriter, htree, hhome, htopic⟩
  | deliverMessage => exact ⟨by simp [Channel.receive, Behavior.World.deliver], htree,
      hhome, htopic⟩
  | tick =>
    obtain ⟨hwriter', hhome', htopic'⟩ := tick_world s.tree env
    obtain ⟨root, phase, htree⟩ := htree
    obtain ⟨root', hiter⟩ := State.iterate_tree env htree []
    exact ⟨hwriter'.trans hwriter, ⟨root', _, congrArg (fun r => r.2.tree) hiter⟩,
      hhome'.trans hhome, htopic'.trans htopic⟩
  | deliverMode =>
    refine ⟨?_, htree, hhome, htopic⟩
    rw [callback, (HealthLink.foldl_send _ _).2]
    exact hwriter

theorem Informed.lossyStep (h : s.Informed homePosition zoneModeTopic)
    (hstep : LossyStep env port s es s') : s'.Informed homePosition zoneModeTopic := by
  cases hstep with
  | step hstep => exact h.step hstep
  | dropMessage | dropMode => exact ⟨h.writer, h.tree, h.homePosition, h.zoneModeTopic⟩

theorem informed_init (dataType : String) (enableDownlinkReceive : Bool) (now : ℤ) :
    (init dataType enableDownlinkReceive now homePosition zoneModeTopic
      frontPatrolCsv).Informed homePosition zoneModeTopic where
  writer := rfl
  tree := ⟨.idle, .idle, rfl⟩
  homePosition := rfl
  zoneModeTopic := rfl

/-! ## From the bytes to the goals -/

/-- What is sent to the tree is what the serial node receives. -/
theorem receives_step (h : Receives s.talker s.session s.toTree.sent)
    (hstep : LossyStep env ReceiveNode.Faithful s es s') :
    Receives s'.talker s'.session s'.toTree.sent := by
  cases hstep with
  | step hstep =>
    cases hstep with
    | talker i _ hfaithful =>
      rw [callback, (HealthLink.foldl_send _ _).1]
      exact h.step hfaithful
    | deliverMode =>
      rw [callback, (HealthLink.foldl_send _ _).1]
      exact h.step trivial
    | loseMessage | deliverMessage | tick | loseMode => exact h
  | dropMessage | dropMode => exact h

/-- The format of the serial node stays. -/
theorem format_step (hstep : LossyStep env port s es s') :
    s'.talker.format = s.talker.format := by
  cases hstep with
  | step hstep =>
    cases hstep with
    | talker i => exact s.talker.step_format i
    | deliverMode => exact s.talker.step_format _
    | loseMessage | deliverMessage | tick | loseMode => rfl
  | dropMessage | dropMode => rfl

end RobotLink

open RobotLink (LossyStep Step init)

/-- In every run where the reads are faithful, whatever messages are lost: once the last message
    has come to the tree, a tick obeys the last complete frame among the bytes of the session,
    if these are a part of a stream of frames without tail bytes in payloads and checksums. If
    its health is low, the patrol branch is still after the tick, and all that the tick has
    published is the home position; otherwise the branch for low health is still, and all that
    the tick has published are waypoints on the blackboard. -/
theorem last_frame_obeyed {env : Env} {enableDownlinkReceive : Bool} {now : ℤ}
    {homePosition : PoseStamped} {zoneModeTopic frontPatrolCsv : String} {es : List Event}
    {s : RobotLink} {rs : List Talker.RecordSeven} {r : Talker.RecordSeven} {j e : ℕ}
    (hrun : Run (LossyStep env ReceiveNode.Faithful) (init Talker.dataTypeSeven
      enableDownlinkReceive now homePosition zoneModeTopic frontPatrolCsv) es s)
    (hclean : ∀ r ∈ rs, Talker.codecSeven.Clean r)
    (hsession : s.session = ((Talker.codecSeven.stream rs).take e).drop j)
    (hlast : (Talker.codecSeven.complete rs j e).getLast? = some r)
    (hcame : s.toTree.received.getLast? = s.toTree.sent.getLast?) :
    ∃ poses, (s.tick env).tree.world.goalPoses = s.tree.world.goalPoses ++ poses ∧
      Obeys homePosition r.msg (s.tick env).tree.tree poses
        (s.tick env).tree.world.board.frontWaypoints := by
  have hinformed : s.Informed homePosition zoneModeTopic :=
    hrun.invariant (fun _ _ _ h hstep => h.lossyStep hstep) (RobotLink.informed_init _ _ _)
  have hformat : s.talker.format = Talker.codecSeven.format :=
    hrun.invariant (I := fun s => s.talker.format = Talker.codecSeven.format)
      (fun _ _ _ h hstep => (RobotLink.format_step hstep).trans h) rfl
  have hreceives : Receives s.talker s.session s.toTree.sent :=
    hrun.invariant (I := fun s => Receives s.talker s.session s.toTree.sent)
      (fun _ _ _ h hstep => RobotLink.receives_step h hstep) (receives_nil rfl)
  obtain ⟨chunks, older, hchunks, -, hsent⟩ := hreceives.chunks
  -- the last message sent is that of the frame, and it is the last one that has come
  have hmsgs := Talker.Codec.receiveAll_last hclean (hchunks.trans hsession)
  rw [hformat] at hsent
  have hreceived : s.toTree.received.getLast? = some r.msg := by
    rw [hcame, hsent, List.getLast?_append, hmsgs, hlast]
    rfl
  obtain ⟨root, phase, htree⟩ := hinformed.tree
  have hwriter : (s.tree.world.deliver []).writer = .callback r.msg := by
    rw [Behavior.World.deliver_eq]
    exact hinformed.writer.trans (by rw [hreceived]; rfl)
  have hobeys := Behavior.obeys_iterate env htree hwriter
  rw [hinformed.homePosition] at hobeys
  exact ⟨_, Behavior.run_goalPoses (s.tree.iterate_run env []), hobeys⟩

/-! A frame comes, whose message is lost, and the first bytes of another one; then the port is
lost, and a frame comes when it is open again. -/

def highRecord : Talker.RecordSeven := ⟨400, 1, 1, 300, 5000, 5000, 2, 0⟩

def lowRecord : Talker.RecordSeven := ⟨299, 1, 1, 300, 5000, 5000, 2, 0⟩

def origin : PoseStamped := ⟨"map", ⟨⟨0, 0, 0⟩, ⟨0, 0, 0, 1⟩⟩⟩

/-- The ticks of the serial node. -/
def reopening : List Talker.Tick :=
  [⟨none, .ok ⟨23, Talker.codecSeven.frame highRecord ++
      (Talker.codecSeven.frame lowRecord).take 7, by decide⟩, 1⟩,
    ⟨none, .error .io, 2⟩,
    ⟨none, .ok ⟨16, Talker.codecSeven.frame lowRecord, by decide⟩, 3⟩]

/-- The last frame has been read. -/
def reopened : RobotLink :=
  reopening.foldl (fun s t => s.callback (.timer t))
    (init Talker.dataTypeSeven true 0 origin "" "")

theorem reopened_queue : reopened.toTree.queue = [highRecord.msg, lowRecord.msg] := by
  decide +kernel

/-- The message of the first frame has been lost. -/
def dropped : RobotLink :=
  { reopened with toTree := reopened.toTree.drop [] [lowRecord.msg] reopened_queue }

theorem dropped_queue : dropped.toTree.queue = [lowRecord.msg] := rfl

/-- The message of the last frame has come to the tree. -/
def delivered : RobotLink :=
  { dropped with
    toTree := dropped.toTree.receive dropped_queue
    tree := { dropped.tree with world := dropped.tree.world.deliver [lowRecord.msg] } }

theorem reopened_run : ∃ es, Run (Step stopped ReceiveNode.Faithful)
    (init Talker.dataTypeSeven true 0 origin "" "") es reopened := by
  refine ⟨_, .cons (.talker _ (.timer _) (by simp) fun _ => ?_)
    (.cons (.talker _ (.timer _) (by simp) fun _ => ?_)
      (.cons (.talker _ (.timer _) (by simp) fun _ => ?_) (.nil _)))⟩
  · decide
  · trivial
  · decide

theorem delivered_run : ∃ es, Run (Step stopped ReceiveNode.Faithful)
    (init Talker.dataTypeSeven true 0 origin "" "") es delivered := by
  obtain ⟨es, hrun⟩ := reopened_run
  exact ⟨_, hrun.trans (.cons (.loseMessage reopened reopened_queue)
    (.single (.deliverMessage dropped dropped_queue)))⟩

theorem last_frame_obeyed_reopened :
    ∃ poses, (delivered.tick stopped).tree.world.goalPoses =
        delivered.tree.world.goalPoses ++ poses ∧
      Obeys origin lowRecord.msg (delivered.tick stopped).tree.tree poses
        (delivered.tick stopped).tree.world.board.frontWaypoints := by
  obtain ⟨es, hrun⟩ := delivered_run
  have hsession : delivered.session =
      ((Talker.codecSeven.stream [lowRecord]).take 16).drop 0 := by decide +kernel
  exact last_frame_obeyed (hrun.mono fun _ _ _ => .step) (by decide) hsession rfl
    (by decide +kernel)

end Sentry.Robot
