import Sentry.Spacing
import Sentry.Talker.Uplink

/-!
# The packets of the timer

Besides the packet for every command, the timer writes the latest commands: in a tick that
gets to the end of its reading, if it has not done so for 100 ms. So the times of these
packets are spaced by 100 ms, and after a tick that gets to the end of its reading, the last
one is less than 100 ms old (`keepalive`), whatever the port does, in which order the commands
come, and however the clock goes.
-/

namespace Sentry.Talker

open Spacing (Spaced)

/-- The time between two packets of the timer, in nanoseconds. -/
def idleInterval : ℤ := 100000000

namespace ReceiveNode

/-- The times of the packets that the timer writes in a step. -/
def idleTime (n : ReceiveNode) : Input → List ℤ
  | .timer t => (written (n.timerCallback t).1).map fun _ => t.now
  | _ => []

/-- The times of the packets that the timer writes in a run. -/
def idleTimes (n : ReceiveNode) : List Input → List ℤ
  | [] => []
  | i :: inputs => n.idleTime i ++ (n.step i).2.idleTimes inputs

variable {n : ReceiveNode} {t : Tick}

/-- A tick that gets to the end of its reading. -/
def Reads (n : ReceiveNode) (t : Tick) : Prop :=
  (n.isSerialOpen = true ∨ t.openError = none) ∧ ∃ d, t.delivery = .ok d

/-- A step whose packets of the timer come 100 ms after the last one, and after each other. -/
structure Paced (last : ℤ) (times : List ℤ) (n' : ReceiveNode) : Prop where
  last_eq : n'.lastIdleCmdSendTime = times.getLastD last
  spaced : Spaced idleInterval (last :: times)

theorem paced_nil {last : ℤ} {n' : ReceiveNode} (h : n'.lastIdleCmdSendTime = last) :
    Paced last [] n' := ⟨h, .singleton _⟩

/-- A tick that reads writes one packet if the last one is 100 ms old. -/
theorem serve_due {d : Delivery} (h : t.delivery = .ok d)
    (hdue : idleInterval ≤ t.now - n.lastIdleCmdSendTime) :
    (∃ packet, written (n.serve t).1 = [packet]) ∧
      (n.serve t).2.lastIdleCmdSendTime = t.now := by
  have hle : 100000000 ≤ t.now - n.lastIdleCmdSendTime := hdue
  simp [serve, h, sendIdle, hle, written]

/-- A tick with the port open. -/
theorem serve_paced (n : ReceiveNode) (t : Tick) :
    Paced n.lastIdleCmdSendTime ((written (n.serve t).1).map fun _ => t.now) (n.serve t).2 ∧
    ((∃ d, t.delivery = .ok d) → t.now - (n.serve t).2.lastIdleCmdSendTime < idleInterval) := by
  rcases hdelivery : t.delivery with e | d
  · obtain ⟨hwritten, hnext⟩ := serve_error (n := n) hdelivery
    rw [hwritten, hnext]
    exact ⟨paced_nil (by cases e <;> rfl), nofun⟩
  · by_cases hdue : t.now - n.lastIdleCmdSendTime < idleInterval
    · obtain ⟨hwritten, hnext⟩ := serve_ok (n := n) hdelivery
      rw [hwritten.2 hdue, hnext hdue]
      exact ⟨paced_nil rfl, fun _ => hdue⟩
    · obtain ⟨⟨packet, hwritten⟩, hlast⟩ := serve_due hdelivery (not_lt.1 hdue)
      rw [hwritten]
      refine ⟨⟨hlast, ?_⟩, fun _ => ?_⟩
      · exact .cons_cons (le_sub_iff_add_le'.1 (not_lt.1 hdue)) (.singleton _)
      · rw [hlast, sub_self]
        decide

/-- A tick with the downlink enabled: the port is open or is opened, or it stays closed. -/
theorem timerCallback_paced (henable : n.enableDownlinkReceive = true) (t : Tick) :
    Paced n.lastIdleCmdSendTime (n.idleTime (.timer t)) (n.timerCallback t).2 ∧
    (n.Reads t → t.now - (n.timerCallback t).2.lastIdleCmdSendTime < idleInterval) := by
  rcases hopen : n.isSerialOpen with _ | _
  · rcases herror : t.openError with _ | e
    · have htick : n.timerCallback t =
          let served := { n with isSerialOpen := true, reportedSerialOpenFailure := false }.serve t
          (.opened :: served.1, served.2) := by
        simp [timerCallback, henable, hopen, herror]
      obtain ⟨hpaced, hfresh⟩ :=
        serve_paced { n with isSerialOpen := true, reportedSerialOpenFailure := false } t
      rw [idleTime, htick]
      exact ⟨hpaced, fun hreads => hfresh hreads.2⟩
    · have htick : n.timerCallback t = ([], { n with reportedSerialOpenFailure := true }) := by
        simp [timerCallback, henable, hopen, herror]
      rw [idleTime, htick]
      refine ⟨paced_nil rfl, fun hreads => ?_⟩
      rcases hreads.1 with h | h
      · simp [hopen] at h
      · simp [herror] at h
  · have htick : n.timerCallback t = n.serve t := by simp [timerCallback, henable, hopen]
    obtain ⟨hpaced, hfresh⟩ := serve_paced n t
    rw [idleTime, htick]
    exact ⟨hpaced, fun hreads => hfresh hreads.2⟩

theorem step_paced (henable : n.enableDownlinkReceive = true) (i : Input) :
    Paced n.lastIdleCmdSendTime (n.idleTime i) (n.step i).2 := by
  cases i with
  | cmdVel msg round =>
    refine paced_nil ?_
    rw [step, cmdVelCallback]
    dsimp only
    split <;> rfl
  | sentryMode data =>
    refine paced_nil ?_
    rw [step, sentryModeCallback]
    dsimp only
    split <;> rfl
  | timer t => exact (timerCallback_paced henable t).1

theorem step_enableDownlinkReceive (n : ReceiveNode) (i : Input) :
    (n.step i).2.enableDownlinkReceive = n.enableDownlinkReceive := by
  cases i with
  | cmdVel msg round =>
    rw [step, cmdVelCallback]
    dsimp only
    split <;> rfl
  | sentryMode data =>
    rw [step, sentryModeCallback]
    dsimp only
    split <;> rfl
  | timer t =>
    obtain ⟨isOpen, reported, buffer, time, hframe⟩ := n.timerCallback_frame t
    rw [step, hframe]

/-- Over a run, the times of the packets are spaced, and the last one is remembered. -/
theorem run_paced (henable : n.enableDownlinkReceive = true) (inputs : List Input) :
    Spaced idleInterval (n.lastIdleCmdSendTime :: n.idleTimes inputs) ∧
    (n.run inputs).2.lastIdleCmdSendTime = (n.idleTimes inputs).getLastD n.lastIdleCmdSendTime ∧
    (n.run inputs).2.enableDownlinkReceive = true := by
  induction inputs generalizing n with
  | nil => exact ⟨.singleton _, rfl, henable⟩
  | cons i inputs ih =>
    have hpaced := step_paced henable i
    obtain ⟨hspaced, hlast, henabled⟩ := ih ((step_enableDownlinkReceive n i).trans henable)
    rw [hpaced.last_eq] at hspaced hlast
    rw [run, idleTimes]
    refine ⟨hpaced.spaced.append ?_, hlast.trans ?_, henabled⟩
    · rw [List.getLast?_cons, ← List.getLastD_eq_getLast?]
      exact hspaced
    · simp only [List.getLastD_eq_getLast?, List.getLast?_append, Option.getD_or]

theorem run_append (inputs inputs' : List Input) :
    (n.run (inputs ++ inputs')).2 = ((n.run inputs).2.run inputs').2 := by
  induction inputs generalizing n with
  | nil => rfl
  | cons i inputs ih => exact ih

end ReceiveNode

/-- The packets of the timer are at least 100 ms apart, in a time `d` from the start of the node
    there are at most `d / 100 ms` of them, and in a tick that gets to the end of its reading, the
    last one is less than 100 ms old. -/
theorem keepalive (dataType : String) (start : ℤ) (inputs : List Input) :
    let n := ReceiveNode.init dataType true start
    Spaced idleInterval (start :: n.idleTimes inputs) ∧
    (∀ finish, (∀ now ∈ start :: n.idleTimes inputs, now ≤ finish) →
      (n.idleTimes inputs).length * idleInterval ≤ finish - start) ∧
    ∀ t, (n.run inputs).2.Reads t →
      t.now - (n.idleTimes (inputs ++ [.timer t])).getLastD start < idleInterval := by
  intro n
  obtain ⟨hspaced, -, henable⟩ := ReceiveNode.run_paced (n := n) rfl inputs
  refine ⟨hspaced, fun finish hfinish => ?_, fun t hreads => ?_⟩
  · rw [← nsmul_eq_mul]
    exact hspaced.length_nsmul_le hfinish
  · obtain ⟨-, hlast, -⟩ := ReceiveNode.run_paced (n := n) rfl (inputs ++ [.timer t])
    have hfresh := (ReceiveNode.timerCallback_paced henable t).2 hreads
    rw [ReceiveNode.run_append] at hlast
    exact hlast ▸ hfresh

end Sentry.Talker
