import Sentry.Run
import Sentry.Channel
import Sentry.Talker.Codec
import Sentry.Talker.Node
import Sentry.Behavior.Preempt

/-!
# The health, from the frames to the tree

The serial node publishes the frames it receives as messages, which come to the tactical
tree (`HealthLink`). Callbacks of the serial node, deliveries and ticks of the tree come
in any order, and messages may be lost.

The message a tick reads is the last one delivered, and it is that of a frame
(`Traces`). The tree keeps only the fields of a 7v7 message, so it judges the health in a
7v7 frame (`health_judged`); in the message of a 3v3 frame, the field it reads is not filled.
-/

namespace Sentry.Robot

open Behavior (Env Leaf Phase PoseStamped State World WriteToBlackboard sem)
open BehaviorTree (Status)
open BehaviorTree.Node (LeafStep)
open Talker (Event FrameFormat Input ReceiveNode SerialReceiveData)
open Transition (Run)

/-! ## The system -/

/-- The messages in some events. -/
def messages (events : List Event) : List SerialReceiveData :=
  events.filterMap fun
    | .published msg => some msg
    | _ => none

/-- The serial node, the channel of its messages, and the program of the tree. -/
structure HealthLink where
  talker : ReceiveNode
  channel : Channel SerialReceiveData 10 := .empty
  tree : State

namespace HealthLink

/-- The steps of the system, with the leaves that are ticked. -/
inductive Step (env : Env) : HealthLink → List (Leaf × World) → HealthLink → Prop
  /-- A callback of the serial node. -/
  | talker (s : HealthLink) (i : Input) :
      Step env s [] { s with
        talker := (s.talker.step i).2
        channel := (messages (s.talker.step i).1).foldl Channel.send s.channel }
  /-- The oldest message is lost, while a newer one waits. -/
  | lose (s : HealthLink) {m m' : SerialReceiveData} {queue : List SerialReceiveData}
      (h : s.channel.queue = m :: m' :: queue) :
      Step env s [] { s with channel := s.channel.lose h }
  /-- The oldest message comes to the tree. -/
  | deliver (s : HealthLink) {m : SerialReceiveData} {queue : List SerialReceiveData}
      (h : s.channel.queue = m :: queue) :
      Step env s [] { s with
        channel := s.channel.receive h
        tree := { s.tree with world := s.tree.world.deliver [m] } }
  /-- The tree ticks. -/
  | tick (s : HealthLink) :
      Step env s (s.tree.iterate env []).1 { s with tree := (s.tree.iterate env []).2 }

/-- The system when it starts. -/
def init (dataType : String) (enableDownlinkReceive : Bool) (now : ℤ) (homePosition : PoseStamped)
    (zoneModeTopic frontPatrolCsv : String) : HealthLink where
  talker := .init dataType enableDownlinkReceive now
  tree := .init homePosition zoneModeTopic frontPatrolCsv

end HealthLink

/-! ## The health on the blackboard -/

section

variable {env : Env} {w w' : World} {visits : List (Leaf × World)}

/-- Once the blackboard has the health of the last message, it has it in all the worlds
    that are visited. -/
theorem run_hp (h : Run (LeafStep (sem env)) w visits w') (hhp : w.board.hp = w.writer.hp) :
    ∀ visit ∈ visits, visit.2.board.hp = w.writer.hp := by
  induction h with
  | nil => simp
  | @cons w _ _ _ _ hstep _ ih =>
    obtain ⟨l, status, rfl, rfl⟩ := hstep
    have heffect := Behavior.tick_effect env l status w
    have hnext : ((sem env l).tick status w).2.board.hp = w.writer.hp :=
      heffect.hp.elim (·.trans hhp) id
    rw [heffect.writer] at ih
    intro visit hvisit
    rcases List.mem_append.1 hvisit with hvisit | hvisit
    · rw [List.mem_singleton.1 hvisit]
      exact hhp
    · exact ih hnext visit hvisit

/-- With a message, every tick judges the health. -/
theorem hpCondition_visited (env : Env) {s : State} {root : Status} {phase : Phase}
    (htree : s.tree = phase.tree root) (hread : s.world.writer.isReadInterface = true) :
    (.hpCondition, s.world.writeToBlackboard.2) ∈ (s.iterate env []).1 := by
  obtain ⟨root', hiter⟩ := State.iterate_tree env htree []
  have hmove := Behavior.move_message env phase hread
  have hdeliver : s.world.deliver [] = s.world := rfl
  rw [hiter, hdeliver, hmove]
  simp [Behavior.Move.after]

/-- A tick judges the health of the last message, if there is one. -/
theorem visit_hp {s : State} {root : Status} {phase : Phase} (htree : s.tree = phase.tree root)
    (hvisit : (.hpCondition, w) ∈ (s.iterate env []).1) :
    s.world.writer.isReadInterface = true ∧ w.board.hp = s.world.writer.hp := by
  obtain ⟨root', hiter⟩ := State.iterate_tree env htree []
  have hrun := s.iterate_run env []
  rw [hiter] at hrun hvisit
  have hdeliver : s.world.deliver [] = s.world := rfl
  rw [hdeliver] at hrun hvisit
  cases hread : s.world.writer.isReadInterface with
  | false =>
    rw [Behavior.move_noMessage env phase hread] at hvisit
    simp at hvisit
  | true =>
    refine ⟨rfl, ?_⟩
    rw [Behavior.move_message env phase hread] at hrun hvisit
    -- the first leaf writes the health of the message
    obtain ⟨l, status, hfirst, hrest⟩ := BehaviorTree.Node.run_cons hrun
    obtain rfl : Leaf.writeToBlackboard = l := (Prod.mk.inj hfirst).1
    have hwritten : ((sem env .writeToBlackboard).tick status s.world).2.board.hp =
        s.world.writer.hp := by
      simp [sem, World.writeToBlackboard, hread]
    have hwriter : ((sem env .writeToBlackboard).tick status s.world).2.writer =
        s.world.writer := (Behavior.tick_effect env .writeToBlackboard status s.world).writer
    rcases List.mem_cons.1 hvisit with hvisit | hvisit
    · simp at hvisit
    · rw [← hwriter]
      exact run_hp hrest (by rw [hwritten, hwriter]) _ hvisit

end

namespace HealthLink

/-! ## The invariant -/

/-- All messages are those of frames, and the tree has the last one delivered. -/
structure Traces (f : FrameFormat) (s : HealthLink) : Prop where
  format : s.talker.format = f
  sent : ∀ msg ∈ s.channel.sent, ∃ frame, f.framing.IsWindow frame ∧ msg = f.toMsg frame
  writer : s.tree.world.writer =
    (s.channel.received.getLast?.map WriteToBlackboard.callback).getD {}
  tree : ∃ root phase, s.tree.tree = Phase.tree root phase

variable {env : Env} {f : FrameFormat} {s s' : HealthLink} {visits : List (Leaf × World)}

theorem traces_init (dataType : String) (enableDownlinkReceive : Bool) (now : ℤ)
    (homePosition : PoseStamped) (zoneModeTopic frontPatrolCsv : String) :
    (init dataType enableDownlinkReceive now homePosition zoneModeTopic frontPatrolCsv).Traces
      (ReceiveNode.init dataType enableDownlinkReceive now).format where
  format := rfl
  sent _ h := absurd h List.not_mem_nil
  writer := rfl
  tree := ⟨.idle, .idle, rfl⟩

/-- Publishing messages sends them, and nothing is received. -/
theorem foldl_send (channel : Channel SerialReceiveData 10) (msgs : List SerialReceiveData) :
    (msgs.foldl Channel.send channel).sent = channel.sent ++ msgs ∧
      (msgs.foldl Channel.send channel).received = channel.received := by
  induction msgs generalizing channel with
  | nil => simp
  | cons msg msgs ih =>
    obtain ⟨hsent, hreceived⟩ := ih (channel.send msg)
    rw [List.foldl_cons, hsent, hreceived]
    exact ⟨by simp [Channel.send], rfl⟩

/-- A step keeps the traces. -/
theorem Traces.step (h : s.Traces f) (hstep : Step env s visits s') : s'.Traces f := by
  cases hstep with
  | talker i =>
    obtain ⟨hsent, hreceived⟩ := foldl_send s.channel (messages (s.talker.step i).1)
    refine ⟨(s.talker.step_format i).trans h.format, fun msg hmsg => ?_, ?_, h.tree⟩
    · rw [hsent] at hmsg
      rcases List.mem_append.1 hmsg with hmsg | hmsg
      · exact h.sent msg hmsg
      · obtain ⟨e, he, hpublished⟩ := List.mem_filterMap.1 hmsg
        obtain rfl : e = .published msg := by
          cases e <;> simp at hpublished
          rw [hpublished]
        rw [← h.format]
        exact ReceiveNode.step_published he
    · rw [hreceived]
      exact h.writer
  | lose => exact ⟨h.format, h.sent, h.writer, h.tree⟩
  | deliver =>
    refine ⟨h.format, h.sent, ?_, h.tree⟩
    simp only [Channel.receive, List.getLast?_concat]
    rfl
  | tick =>
    refine ⟨h.format, h.sent, ?_, ?_⟩
    · exact (Behavior.run_frame (s.tree.iterate_run env [])).1.1.trans h.writer
    · obtain ⟨root, phase, htree⟩ := h.tree
      exact State.run_tree env htree [[]]

/-- A tick that judges the health judges the one in the last message delivered, which is that
    of a frame. -/
theorem Traces.visit (h : s.Traces f) {w : World}
    (hvisit : (.hpCondition, w) ∈ (s.tree.iterate env []).1) :
    ∃ frame, f.framing.IsWindow frame ∧
      s.channel.received.getLast? = some (f.toMsg frame) ∧
      (w.hpCondition.1 = .success ↔ (f.toMsg frame).hp.toNat < 300) := by
  obtain ⟨root, phase, htree⟩ := h.tree
  obtain ⟨hread, hhp⟩ := visit_hp htree hvisit
  rw [h.writer] at hread hhp
  cases hlast : s.channel.received.getLast? with
  | none =>
    rw [hlast] at hread
    exact absurd hread Bool.false_ne_true
  | some msg =>
    -- what was delivered was sent, so it is the message of a frame
    have hmem : msg ∈ s.channel.received ++ s.channel.queue :=
      List.mem_append_left _ (List.mem_of_getLast? hlast)
    obtain ⟨frame, hframe, rfl⟩ := h.sent msg (Channel.mem_sent hmem)
    refine ⟨frame, hframe, rfl, ?_⟩
    rw [hlast] at hhp
    have hhp : w.board.hp = (f.toMsg frame).hp.toNat := hhp
    rw [World.hpCondition, Behavior.hpThreshold, hhp]
    split
    next hlow => simpa using hlow
    next hhigh => simpa using hhigh

/-- The same, with the record of the frame. -/
theorem Traces.record {R : Type} {K : Talker.Codec R} (h : s.Traces K.format) {w : World}
    (hvisit : (.hpCondition, w) ∈ (s.tree.iterate env []).1) :
    ∃ r, s.channel.received.getLast? = some (K.msg r) ∧
      (w.hpCondition.1 = .success ↔ (K.msg r).hp.toNat < 300) := by
  obtain ⟨frame, hframe, hlast, hlow⟩ := h.visit hvisit
  obtain ⟨r, -, hmsg⟩ := Talker.Codec.exists_record hframe
  rw [hmsg] at hlast hlow
  exact ⟨r, hlast, hlow⟩

/-- In every run, all messages are those of frames. -/
theorem run_traces {dataType : String} {enableDownlinkReceive : Bool} {now : ℤ}
    {homePosition : PoseStamped} {zoneModeTopic frontPatrolCsv : String}
    (hrun : Run (Step env) (init dataType enableDownlinkReceive now homePosition zoneModeTopic
      frontPatrolCsv) visits s) :
    s.Traces (ReceiveNode.init dataType enableDownlinkReceive now).format :=
  hrun.invariant (fun _ _ _ h hstep => h.step hstep) (traces_init _ _ _ _ _ _)

/-- A 3v3 message does not fill the field `hp`: the health is low whatever the frame says. -/
theorem Traces.three (h : s.Traces Talker.codecThree.format) {w : World}
    (hvisit : (.hpCondition, w) ∈ (s.tree.iterate env []).1) :
    ∃ r : Talker.RecordThree, s.channel.received.getLast? = some r.msg ∧
      w.hpCondition.1 = .success := by
  obtain ⟨r, hlast, hlow⟩ := h.record hvisit
  have hunfilled : (Talker.codecThree.msg r).hp = 0 := rfl
  exact ⟨r, hlast, hlow.2 (by rw [hunfilled]; decide)⟩

end HealthLink

open HealthLink (Step init)

/-- In every run, a tick that judges the health judges the last message delivered. With 7v7
    frames, the health is low just when the field `hp` of the frame is below 300. With 3v3
    frames, it is low whatever the frame says: only the fields of a 7v7 message are kept. -/
theorem health_judged (env : Env) (enableDownlinkReceive : Bool) (now : ℤ)
    (homePosition : PoseStamped) (zoneModeTopic frontPatrolCsv : String) :
    (∀ visits s, Run (Step env) (init Talker.dataTypeSeven enableDownlinkReceive now homePosition
        zoneModeTopic frontPatrolCsv) visits s →
      ∀ w, (.hpCondition, w) ∈ (s.tree.iterate env []).1 →
        ∃ r : Talker.RecordSeven, s.channel.received.getLast? = some r.msg ∧
          (w.hpCondition.1 = .success ↔ r.hp.toNat < 300)) ∧
    (∀ visits s, Run (Step env) (init Talker.dataTypeThree enableDownlinkReceive now homePosition
        zoneModeTopic frontPatrolCsv) visits s →
      ∀ w, (.hpCondition, w) ∈ (s.tree.iterate env []).1 →
        ∃ r : Talker.RecordThree, s.channel.received.getLast? = some r.msg ∧
          w.hpCondition.1 = .success) := by
  refine ⟨fun visits s hrun w hvisit => ?_, fun visits s hrun w hvisit => ?_⟩
  · have hseven : s.Traces Talker.codecSeven.format := HealthLink.run_traces hrun
    exact hseven.record hvisit
  · have hthree : s.Traces Talker.codecThree.format := HealthLink.run_traces hrun
    exact hthree.three hvisit

/-! Some bytes are read, and then the message in them is delivered. -/

/-- An environment with a stopped clock, and nothing else. -/
def stopped : Env := ⟨fun _ => 0, fun _ => none, fun _ _ => none, fun _ => none⟩

/-- A robot whose home is the origin, before anything comes. -/
def atHome (dataType : String) : HealthLink :=
  init dataType true 0 ⟨"map", ⟨⟨0, 0, 0⟩, ⟨0, 0, 0, 1⟩⟩⟩ "" ""

/-- Its serial node has read some bytes. -/
def afterRead (dataType : String) (d : Talker.Delivery) : HealthLink :=
  { atHome dataType with
    talker := ((atHome dataType).talker.step (.timer ⟨none, .ok d, 1⟩)).2
    channel := (messages ((atHome dataType).talker.step (.timer ⟨none, .ok d, 1⟩)).1).foldl
      Channel.send (atHome dataType).channel }

/-- Once the message is delivered, a tick judges the health. -/
theorem afterRead_visit (dataType : String) (d : Talker.Delivery) {msg : SerialReceiveData}
    (h : (afterRead dataType d).channel.queue = [msg]) :
    ∃ s w, Run (Step stopped) (atHome dataType) [] s ∧ s.channel.received.getLast? = some msg ∧
      (.hpCondition, w) ∈ (s.tree.iterate stopped []).1 := by
  have hrun : Run (Step stopped) (atHome dataType) ([] ++ ([] ++ [])) _ :=
    .cons (.talker _ (.timer ⟨none, .ok d, 1⟩)) (.cons (.deliver (afterRead dataType d) h) (.nil _))
  have htree : (atHome dataType).tree.tree = Phase.idle.tree .idle := rfl
  exact ⟨_, _, hrun, by simp [Channel.receive], hpCondition_visited stopped htree rfl⟩

/-- A 7v7 frame comes. -/
theorem health_judged_seven :
    ∃ s w, Run (Step stopped) (atHome Talker.dataTypeSeven) [] s ∧
      (.hpCondition, w) ∈ (s.tree.iterate stopped []).1 ∧
      ∃ r : Talker.RecordSeven, s.channel.received.getLast? = some r.msg ∧
        (w.hpCondition.1 = .success ↔ r.hp.toNat < 300) := by
  let r : Talker.RecordSeven := ⟨299, 1, 1, 300, 5000, 5000, 2, 0⟩
  let d : Talker.Delivery := ⟨16, Talker.codecSeven.frame r, by decide⟩
  have hqueue : (afterRead Talker.dataTypeSeven d).channel.queue = [r.msg] := by decide +kernel
  obtain ⟨s, w, hrun, -, hvisit⟩ := afterRead_visit Talker.dataTypeSeven d hqueue
  exact ⟨s, w, hrun, hvisit, (health_judged stopped true 0 _ "" "").1 [] s hrun w hvisit⟩

/-- A 3v3 frame comes, with the health 400: the health is judged low. -/
theorem health_not_judged :
    ¬∀ env enableDownlinkReceive now homePosition zoneModeTopic frontPatrolCsv visits s,
      Run (Step env) (init Talker.dataTypeThree enableDownlinkReceive now homePosition
        zoneModeTopic frontPatrolCsv) visits s →
      ∀ w, (.hpCondition, w) ∈ (s.tree.iterate env []).1 → w.hpCondition.1 = .success →
        ∀ r : Talker.RecordThree, s.channel.received.getLast? = some r.msg →
          r.ourSentryBlood.toNat < 300 := by
  intro h
  let r : Talker.RecordThree := ⟨300, 0, 400, 1, 200, 1, 400, 300, 1, 200, 1, 400⟩
  let d : Talker.Delivery := ⟨24, Talker.codecThree.frame r, by decide⟩
  have hqueue : (afterRead Talker.dataTypeThree d).channel.queue = [r.msg] := by decide +kernel
  obtain ⟨s, w, hrun, hlast, hvisit⟩ := afterRead_visit Talker.dataTypeThree d hqueue
  have hthree : s.Traces Talker.codecThree.format := HealthLink.run_traces hrun
  obtain ⟨-, -, hlow⟩ := hthree.three hvisit
  exact absurd (h stopped true 0 _ "" "" [] s hrun w hvisit hlow r hlast) (by decide)

end Sentry.Robot
