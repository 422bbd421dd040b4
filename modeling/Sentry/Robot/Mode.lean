import Sentry.Run
import Sentry.Channel
import Sentry.Talker.Uplink
import Sentry.Behavior.Override

/-!
# The mode, from the tree to the packets

The nodes `SetSentryMode` of the tree publish the mode on a topic, from where it comes
to the serial node, which puts it in its packets (`ModeLink`). Nodes tick, messages are
delivered or lost, and velocities and timer ticks come to the serial node, in any order.

A node publishes only what the blackboard does not have yet. So the last message sent is
always the mode that was selected last (`Agrees`), and once no message waits, the serial
node has it (`modes_agree`).
-/

namespace Sentry.Robot

open Behavior (ModeSystem ModeTick SetSentryMode)
open Talker (Byte Event Input ReceiveNode clamp)
open Transition (Run)

variable {ι : Type*} [DecidableEq ι]

/-! ## The system -/

/-- The nodes of the tree, the channel of the topic of the mode, and the serial node; with
    the mode that a tick selected last. -/
structure ModeLink (ι : Type*) where
  tree : ModeSystem ι := {}
  channel : Channel (BitVec 32) 10 := .empty
  talker : ReceiveNode
  selected : Option String := none

namespace ModeLink

/-- The full name of a topic for the node `cod_behavior`, in the root namespace and without
    remapping. Names with substitutions, and those that are refused, are left out. -/
def fullName (topic : String) : String :=
  match topic.toList with
  | '/' :: _ => topic
  | '~' :: path => "/cod_behavior" ++ String.ofList path
  | _ => "/" ++ topic

/-- The channel after a message is published, with its topic, or none is. -/
def publish (channel : Channel (BitVec 32) 10) : Option (String × ℤ) → Channel (BitVec 32) 10
  | none => channel
  | some (topic, data) =>
    if fullName topic = "/sentry_mode_cmd" then channel.send (BitVec.ofInt 32 data) else channel

/-- A node of the tree ticks. -/
def tick (s : ModeLink ι) (t : ModeTick ι) : ModeLink ι :=
  { s with
    tree := (s.tree.tick t).2.1
    channel := publish s.channel (s.tree.tick t).2.2
    selected := if t.Known then some (s.tree.selection t) else s.selected }

/-- The steps of the system, with the events of the serial node. -/
inductive Step : ModeLink ι → List Event → ModeLink ι → Prop
  /-- A node of the tree ticks, on the topic of the mode command. -/
  | tick (s : ModeLink ι) (t : ModeTick ι) : t.topic = "/sentry_mode_cmd" → Step s [] (s.tick t)
  /-- The oldest message is lost, while a newer one waits. -/
  | lose (s : ModeLink ι) {m m' : BitVec 32} {queue : List (BitVec 32)}
      (h : s.channel.queue = m :: m' :: queue) : Step s [] { s with channel := s.channel.lose h }
  /-- The oldest message comes to the serial node. -/
  | deliver (s : ModeLink ι) {m : BitVec 32} {queue : List (BitVec 32)}
      (h : s.channel.queue = m :: queue) :
      Step s (s.talker.step (.sentryMode m)).1
        { s with channel := s.channel.receive h, talker := (s.talker.step (.sentryMode m)).2 }
  /-- A velocity or a timer tick comes to the serial node. -/
  | talker (s : ModeLink ι) (i : Input) : (∀ data, i ≠ .sentryMode data) →
      Step s (s.talker.step i).1 { s with talker := (s.talker.step i).2 }

/-- The system when it starts. -/
def init (ι : Type*) (dataType : String) (enableDownlinkReceive : Bool) (now : ℤ) :
    ModeLink ι where
  talker := .init dataType enableDownlinkReceive now

end ModeLink

/-! ## Modes -/

/-- The mode in the packets, for the data of a message. -/
def modeByte (data : BitVec 32) : Byte := BitVec.ofInt 8 (clamp data.toInt 0 255)

/-- A known mode comes through as it is. -/
theorem modeByte_modeToValue {name : String} (h : 0 ≤ SetSentryMode.modeToValue name) :
    ((modeByte (BitVec.ofInt 32 (SetSentryMode.modeToValue name))).toNat : ℤ) =
      SetSentryMode.modeToValue name := by
  rcases SetSentryMode.known_cases h with rfl | rfl | rfl <;> decide

namespace ModeLink

/-! ## The invariant -/

/-- The blackboard has the mode selected last, which was the last one sent, and the serial
    node has the one received last. -/
structure Agrees (s : ModeLink ι) : Prop where
  publishers : s.tree.PublishesOn "/sentry_mode_cmd"
  override : s.tree.board.sentryModeOverrideActive = true →
    0 ≤ SetSentryMode.modeToValue s.tree.board.sentryModeOverrideName
  unselected : s.selected = none → s.tree.board.currentSentryMode = -1
  selected : ∀ name, s.selected = some name → 0 ≤ SetSentryMode.modeToValue name ∧
    s.tree.board.currentSentryModeName = name ∧
    s.tree.board.currentSentryMode = SetSentryMode.modeToValue name
  sent : s.channel.sent.getLast? =
    s.selected.map fun name => BitVec.ofInt 32 (SetSentryMode.modeToValue name)
  keepsLast : s.channel.KeepsLast
  cached : ∀ data, s.channel.received.getLast? = some data →
    s.talker.cachedSentryMode = modeByte data

variable {s s' : ModeLink ι} {es : List Event}

omit [DecidableEq ι] in
theorem agrees_init (dataType : String) (enableDownlinkReceive : Bool) (now : ℤ) :
    (init ι dataType enableDownlinkReceive now).Agrees where
  publishers _ := .inl rfl
  override h := absurd h Bool.false_ne_true
  unselected _ := rfl
  selected _ h := absurd h (by simp [init])
  sent := rfl
  keepsLast := Channel.keepsLast_empty
  cached _ h := absurd h (by simp [init, Channel.empty])

@[simp] theorem fullName_sentryModeCmd : fullName "/sentry_mode_cmd" = "/sentry_mode_cmd" := by
  decide

/-- A message on the topic of the mode command is sent. -/
theorem publish_some (channel : Channel (BitVec 32) 10) (data : ℤ) :
    publish channel (some ("/sentry_mode_cmd", data)) = channel.send (BitVec.ofInt 32 data) := by
  rw [publish, if_pos fullName_sentryModeCmd]

theorem publish_received (channel : Channel (BitVec 32) 10) (msg : Option (String × ℤ)) :
    (publish channel msg).received = channel.received := by
  rcases msg with _ | ⟨topic, data⟩
  · rfl
  · rw [publish]
    split <;> rfl

theorem publish_keepsLast {channel : Channel (BitVec 32) 10} (h : channel.KeepsLast)
    (msg : Option (String × ℤ)) : (publish channel msg).KeepsLast := by
  rcases msg with _ | ⟨topic, data⟩
  · exact h
  · rw [publish]
    split
    · exact channel.keepsLast_send _
    · exact h

/-- A tick keeps the agreement: what it does not publish is what was sent last. -/
theorem Agrees.tick (h : s.Agrees) {t : ModeTick ι} (ht : t.topic = "/sentry_mode_cmd") :
    (s.tick t).Agrees := by
  by_cases hknown : t.Known
  · obtain ⟨hchoice, -, hname, hvalue⟩ := s.tree.tick_known hknown
    obtain ⟨hmsg, hpub⟩ := ModeSystem.tick_message (t := t) hknown (ht ▸ h.publishers)
    rw [ht] at hmsg hpub
    obtain ⟨hselected, hoverride⟩ := hchoice.known hknown h.override
    have hsel : (s.tick t).selected = some (s.tree.selection t) := if_pos hknown
    refine ⟨hpub, hoverride, fun hnone => ?_, fun name hsome => ?_, ?_,
      publish_keepsLast h.keepsLast _, fun data hdata => ?_⟩
    · exact absurd (hsel.symm.trans hnone) (Option.some_ne_none _)
    · obtain rfl : s.tree.selection t = name := Option.some.inj (hsel.symm.trans hsome)
      exact ⟨hselected, hname, hvalue⟩
    · rw [hsel]
      rcases hmsg with hmsg | ⟨hmsg, hsame, hsamename⟩
      · simp only [ModeLink.tick, hmsg, publish_some, Channel.send, List.getLast?_concat]
        rfl
      · -- nothing is published: the mode was the current one
        have hlast : s.selected = some (s.tree.selection t) := by
          rcases hs : s.selected with _ | name
          · rw [h.unselected hs] at hsame
            omega
          · rw [← hsamename, (h.selected name hs).2.1]
        simp only [ModeLink.tick, hmsg, publish]
        rw [h.sent, hlast]
    · simp only [ModeLink.tick, publish_received] at hdata
      exact h.cached data hdata
  · have htick : s.tick t = s := by
      simp only [ModeLink.tick, s.tree.tick_unknown hknown, publish, if_neg hknown]
    rw [htick]
    exact h

/-- A step keeps the agreement. -/
theorem Agrees.step (h : s.Agrees) (hstep : Step s es s') : s'.Agrees := by
  cases hstep with
  | tick t ht => exact h.tick ht
  | lose hqueue =>
    exact ⟨h.publishers, h.override, h.unselected, h.selected, h.sent, h.keepsLast.lose hqueue,
      h.cached⟩
  | deliver hqueue =>
    refine ⟨h.publishers, h.override, h.unselected, h.selected, h.sent,
      h.keepsLast.receive hqueue, fun data hdata => ?_⟩
    simp only [Channel.receive, List.getLast?_concat, Option.some.injEq] at hdata
    rw [Talker.ReceiveNode.sentryMode_cachedSentryMode, hdata, modeByte]
  | talker i hi =>
    refine ⟨h.publishers, h.override, h.unselected, h.selected, h.sent, h.keepsLast,
      fun data hdata => ?_⟩
    rw [Talker.ReceiveNode.step_cachedSentryMode _ hi]
    exact h.cached data hdata

omit [DecidableEq ι] in
/-- Once something was sent and nothing waits, the serial node has the mode selected last,
    which is the one on the blackboard. -/
theorem Agrees.quiet (h : s.Agrees) (hqueue : s.channel.queue = []) (hsent : s.channel.sent ≠ []) :
    ∃ name, s.selected = some name ∧
      s.tree.board.currentSentryMode = SetSentryMode.modeToValue name ∧
      (s.talker.cachedSentryMode.toNat : ℤ) = SetSentryMode.modeToValue name := by
  -- the last message sent is the last one received, and it is the mode selected last
  obtain ⟨data, hdata⟩ := Option.ne_none_iff_exists'.1 (mt List.getLast?_eq_none_iff.1 hsent)
  have hlast := hdata
  rw [h.sent, Option.map_eq_some_iff] at hlast
  obtain ⟨name, hname, rfl⟩ := hlast
  obtain ⟨hknown, -, hvalue⟩ := h.selected name hname
  refine ⟨name, hname, hvalue, ?_⟩
  rw [h.cached _ ((h.keepsLast.received_getLast? hqueue).trans hdata), modeByte_modeToValue hknown]

/-! ## Packets -/

/-- A packet that a step writes says the mode the serial node has after it. -/
theorem Step.decode (h : Step s es s') {packet : List Byte} (hpacket : .written packet ∈ es) :
    ∃ c, Talker.decodeCommands packet = some c ∧ c.mode = s'.talker.cachedSentryMode.toNat := by
  cases h with
  | tick => exact absurd hpacket List.not_mem_nil
  | lose => exact absurd hpacket List.not_mem_nil
  | deliver => exact Talker.ReceiveNode.step_decode hpacket
  | talker => exact Talker.ReceiveNode.step_decode hpacket

/-- While nothing waits, a step leaves the mode of the serial node. -/
theorem Step.cachedSentryMode (h : Step s es s') (hqueue : s.channel.queue = []) :
    s'.talker.cachedSentryMode = s.talker.cachedSentryMode := by
  cases h with
  | tick => rfl
  | lose h => exact absurd (hqueue.symm.trans h) (by simp)
  | deliver h => exact absurd (hqueue.symm.trans h) (by simp)
  | talker i hi => exact Talker.ReceiveNode.step_cachedSentryMode _ hi

end ModeLink

open ModeLink (init Step)

/-- In every state of every run where something was published and no message waits, the
    serial node has the mode that is on the blackboard, the one selected last; and so says
    every packet written in a step from this state, or in the one that led to it. -/
theorem modes_agree {dataType : String} {enableDownlinkReceive : Bool} {now : ℤ}
    {es : List Event} {s : ModeLink ι}
    (hrun : Run Step (init ι dataType enableDownlinkReceive now) es s)
    (hqueue : s.channel.queue = []) (hsent : s.channel.sent ≠ []) :
    (s.talker.cachedSentryMode.toNat : ℤ) = s.tree.board.currentSentryMode ∧
      ∃ name, s.selected = some name ∧
        s.tree.board.currentSentryMode = SetSentryMode.modeToValue name ∧
        ∀ s' es' packet, Step s es' s' ∨ Step s' es' s → .written packet ∈ es' →
          ∃ c, Talker.decodeCommands packet = some c ∧
            c.mode = SetSentryMode.modeToValue name := by
  have hagrees : s.Agrees :=
    hrun.invariant (fun _ _ _ h hstep => h.step hstep) (ModeLink.agrees_init _ _ _)
  obtain ⟨name, hname, hcurrent, hcached⟩ := hagrees.quiet hqueue hsent
  refine ⟨hcached.trans hcurrent.symm, name, hname, hcurrent, fun s' es' packet hstep hpacket => ?_⟩
  rcases hstep with hstep | hstep
  · obtain ⟨c, hc, hmode⟩ := hstep.decode hpacket
    refine ⟨c, hc, ?_⟩
    rw [hmode, hstep.cachedSentryMode hqueue, hcached]
  · obtain ⟨c, hc, hmode⟩ := hstep.decode hpacket
    exact ⟨c, hc, hmode.trans hcached⟩

/-- One node has ticked, and its message waits. -/
def moveSent : ModeLink Unit :=
  (init Unit Talker.dataTypeSeven true 0).tick ⟨(), "move", "", false, 0⟩

theorem moveSent_queue : moveSent.channel.queue = [3] := rfl

/-- The message has come to the serial node. -/
def moveReceived : ModeLink Unit :=
  { moveSent with
    channel := moveSent.channel.receive moveSent_queue
    talker := (moveSent.talker.step (.sentryMode 3)).2 }

theorem modes_agree_move :
    (moveReceived.talker.cachedSentryMode.toNat : ℤ) =
        moveReceived.tree.board.currentSentryMode ∧
      moveReceived.tree.board.currentSentryMode = 3 := by
  have hrun : Run Step (init Unit Talker.dataTypeSeven true 0) ([] ++ ([] ++ [])) moveReceived :=
    .cons (.tick _ _ rfl) (.cons (.deliver moveSent moveSent_queue) (.nil _))
  exact ⟨(modes_agree hrun rfl (by decide)).1, rfl⟩

end Sentry.Robot
