import Sentry.Talker.Node

/-!
# Sessions of the port

Where the bytes of a message come from. A *session* lasts from one opening of the
port to its closing, and the bytes of the session are those that `read` has returned
since it began (`Event.session`). A message is *genuine* if it is decoded from
consecutive bytes of the session in which it is published.

Two steps of the node break this, each later than it happens: a read that returns
fewer bytes than were available leaves zeros in the buffer after them, and an
exception other than `serial::IOException` leaves the bytes of the old session in the
buffer for the next one. In a run without such steps (`ReceiveNode.Faithful`), the
buffer is always the end of the bytes of the session (`ReceiveNode.Coherent`), and all
messages are genuine (`published_genuine`).
-/

namespace Sentry.Talker

open Framing Transition

/-! ## Genuine messages -/

/-- The bytes of the session after an event. -/
def Event.session (s : List Byte) : Event → List Byte
  | .opened => []
  | .closed => []
  | .received bytes => s ++ bytes
  | .published _ => s
  | .written _ => s

/-- Every message is decoded from consecutive bytes of the session in which it is
    published, which starts with the bytes `s`. -/
def Genuine (f : FrameFormat) (s : List Byte) : List Event → Prop
  | [] => True
  | e :: events =>
    (∀ msg, e = .published msg → ∃ w, w.length = f.len ∧ w <:+: s ∧ msg = f.toMsg w) ∧
      Genuine f (e.session s) events

/-- The bytes of the session after some events. -/
def sessionAfter (s : List Byte) (events : List Event) : List Byte := events.foldl Event.session s

variable {f : FrameFormat} {s : List Byte}

theorem genuine_append {events events' : List Event} :
    Genuine f s (events ++ events') ↔
      Genuine f s events ∧ Genuine f (sessionAfter s events) events' := by
  induction events generalizing s with
  | nil => simp [Genuine, sessionAfter]
  | cons e events ih =>
    rw [List.cons_append, Genuine, Genuine, ih, and_assoc]
    rfl

theorem sessionAfter_append (events events' : List Event) :
    sessionAfter s (events ++ events') = sessionAfter (sessionAfter s events) events' :=
  List.foldl_append

@[simp] theorem sessionAfter_published (msgs : List SerialReceiveData) :
    sessionAfter s (msgs.map .published) = s := by
  induction msgs with
  | nil => rfl
  | cons msg msgs ih => exact ih

/-- The messages of windows of the session are genuine. -/
theorem genuine_published {ws : List (List Byte)}
    (h : ∀ w ∈ ws, w.length = f.len ∧ w <:+: s) :
    Genuine f s ((ws.map f.toMsg).map .published) := by
  induction ws with
  | nil => trivial
  | cons w ws ih =>
    refine ⟨?_, ih fun w' hw' => h w' (List.mem_cons_of_mem _ hw')⟩
    rintro msg hmsg
    obtain rfl := Event.published.inj hmsg
    exact ⟨w, (h w List.mem_cons_self).1, (h w List.mem_cons_self).2, rfl⟩

namespace ReceiveNode

/-! ## Faithful runs -/

/-- The tick gets to `available` and `read`: the port is open, or is opened. -/
def Serves (n : ReceiveNode) (t : Tick) : Prop :=
  n.enableDownlinkReceive = true ∧ (n.isSerialOpen = true ∨ t.openError = none)

/-- The input is not a tick where `read` returns fewer bytes than were available, or
    where another exception than `serial::IOException` is thrown while there are bytes
    in the buffer. -/
def Faithful (n : ReceiveNode) : Input → Prop
  | .timer t => n.Serves t →
    match t.delivery with
    | .ok d => d.bytes.length = d.available
    | .error .io => True
    | .error .other => n.buffer = []
  | _ => True

/-- All the steps for some inputs are faithful. -/
def FaithfulRun (n : ReceiveNode) : List Input → Prop
  | [] => True
  | i :: inputs => n.Faithful i ∧ (n.step i).2.FaithfulRun inputs

/-- The buffer is the end of the bytes of the session, and empty without a session. -/
structure Coherent (n : ReceiveNode) (s : List Byte) : Prop where
  suffix : n.buffer <:+ s
  closed : n.isSerialOpen = false → n.buffer = []

variable {n : ReceiveNode} {t : Tick} {i : Input}

theorem temp_of_length {d : Delivery} (h : d.bytes.length = d.available) : d.temp = d.bytes := by
  rw [Delivery.temp, h, Nat.sub_self, List.replicate_zero, List.append_nil]

/-- Parsing the end of the bytes of the session publishes genuine messages, and leaves
    the end of them. -/
theorem parse_genuine {buffer : List Byte} (h : buffer <:+ s) :
    Genuine n.format s ((n.parse buffer).1.map .published) ∧ (n.parse buffer).2 <:+ s := by
  obtain ⟨ws, hscan, hmsgs⟩ := n.format.parse_scan buffer
  have htrim := (n.format.trim_suffix buffer).trans h
  have horder := (Format.Lossy.run_inOrder hscan.lossy).mono htrim
  rw [parse_eq, hmsgs]
  refine ⟨genuine_published fun w hw => ⟨?_, horder.infix w hw⟩,
    (Format.run_suffix hscan.run).trans htrim⟩
  rw [(Format.Lossy.run_isWindow hscan.lossy w hw).length n.format.framing_body_pos,
    n.format.size_framing]

/-- Sending the latest commands publishes nothing. -/
theorem sendIdle_genuine (now : ℤ) :
    Genuine f s (n.sendIdle now).1 ∧ sessionAfter s (n.sendIdle now).1 = s := by
  rw [sendIdle]
  split
  · exact ⟨⟨by simp, trivial⟩, rfl⟩
  · exact ⟨trivial, rfl⟩

/-- Serving an open port. -/
theorem serve_genuine (hbuffer : n.buffer <:+ s) (hopen : n.isSerialOpen = true)
    (hfaithful : match t.delivery with
      | .ok d => d.bytes.length = d.available
      | .error .io => True
      | .error .other => n.buffer = []) :
    Genuine n.format s (n.serve t).1 ∧
      (n.serve t).2.Coherent (sessionAfter s (n.serve t).1) := by
  rw [serve]
  rcases hdelivery : t.delivery with e | d
  · rw [hdelivery] at hfaithful
    refine ⟨⟨by simp, trivial⟩, ?_⟩
    cases e with
    | io => exact ⟨List.suffix_rfl, fun _ => rfl⟩
    | other => exact ⟨hfaithful ▸ List.nil_suffix, fun _ => hfaithful⟩
  · rw [hdelivery] at hfaithful
    have hs : n.buffer ++ d.temp <:+ s ++ d.bytes := by
      rw [temp_of_length hfaithful]
      obtain ⟨pre, rfl⟩ := hbuffer
      exact ⟨pre, by simp⟩
    obtain ⟨hgenuine, hsuffix⟩ := parse_genuine hs
    obtain ⟨hsent, hsession⟩ := sendIdle_genuine (f := n.format) (s := s ++ d.bytes) t.now
      (n := { n with buffer := (n.parse (n.buffer ++ d.temp)).2 })
    have hpublished : sessionAfter s (.received d.bytes ::
        (n.parse (n.buffer ++ d.temp)).1.map .published) = s ++ d.bytes :=
      sessionAfter_published _
    refine ⟨genuine_append.2 ⟨⟨by simp, hgenuine⟩, ?_⟩, ?_, fun hclosed => ?_⟩
    · rw [hpublished]
      exact hsent
    · rw [sessionAfter_append, hpublished, hsession, sendIdle_buffer]
      exact hsuffix
    · rw [sendIdle_isSerialOpen] at hclosed
      exact absurd (hopen.symm.trans hclosed) (by decide)

/-- A faithful step publishes genuine messages and keeps the buffer coherent. -/
theorem step_genuine (h : n.Coherent s) (hfaithful : n.Faithful i) :
    Genuine n.format s (n.step i).1 ∧
      (n.step i).2.Coherent (sessionAfter s (n.step i).1) := by
  cases i with
  | cmdVel msg round =>
    simp only [step, cmdVelCallback]
    split
    · exact ⟨trivial, h.suffix, h.closed⟩
    · exact ⟨⟨by simp, trivial⟩, h.suffix, h.closed⟩
  | sentryMode data =>
    simp only [step, sentryModeCallback]
    split
    · exact ⟨trivial, h.suffix, h.closed⟩
    · exact ⟨⟨by simp, trivial⟩, h.suffix, h.closed⟩
  | timer t =>
    simp only [step, timerCallback]
    split
    · exact ⟨trivial, h⟩
    next henable =>
      have henable : n.enableDownlinkReceive = true := by simpa using henable
      split
      next hopen => exact serve_genuine h.suffix hopen (hfaithful ⟨henable, .inl hopen⟩)
      next hopen =>
        have hbuffer := h.closed (by simpa using hopen)
        split
        · exact ⟨trivial, h.suffix, h.closed⟩
        next hnone =>
          -- The session starts with an empty buffer.
          obtain ⟨hgenuine, hcoherent⟩ := serve_genuine (s := []) (t := t)
            (n := { n with isSerialOpen := true, reportedSerialOpenFailure := false })
            (hbuffer ▸ List.suffix_rfl) rfl (hfaithful ⟨henable, .inr hnone⟩)
          exact ⟨⟨by simp, hgenuine⟩, hcoherent⟩

/-- A faithful run publishes genuine messages. -/
theorem run_genuine {inputs : List Input} (h : n.Coherent s) (hrun : n.FaithfulRun inputs) :
    Genuine n.format s (n.run inputs).1 := by
  induction inputs generalizing n s with
  | nil => trivial
  | cons i inputs ih =>
    obtain ⟨hi, hrest⟩ := hrun
    obtain ⟨hgenuine, hcoherent⟩ := step_genuine h hi
    exact genuine_append.2 ⟨hgenuine, step_format n i ▸ ih hcoherent hrest⟩

end ReceiveNode

/-- In a run where every read returns all the bytes that were available, and every
    exception but `serial::IOException` comes with an empty buffer, every message is
    decoded from bytes that `read` returned, consecutively, in the session in which
    the message is published. -/
theorem published_genuine (dataType : String) (enableDownlinkReceive : Bool) (now : ℤ)
    (inputs : List Input)
    (h : (ReceiveNode.init dataType enableDownlinkReceive now).FaithfulRun inputs) :
    Genuine (ReceiveNode.init dataType enableDownlinkReceive now).format []
      ((ReceiveNode.init dataType enableDownlinkReceive now).run inputs).1 :=
  ReceiveNode.run_genuine ⟨List.suffix_rfl, fun _ => rfl⟩ h

/-- A frame read in two ticks. -/
theorem published_genuine_frame :
    let n := ReceiveNode.init dataTypeSeven true 0
    let head : Delivery := ⟨7, [0x01, 0x90, 1, 1, 0, 0, 0x01], by decide⟩
    let rest : Delivery := ⟨9, [0x2c, 0x13, 0x88, 0x13, 0x88, 2, 0, 0xbe, 0xdd], by decide⟩
    Genuine n.format [] (n.run [.timer ⟨none, .ok head, 1⟩, .timer ⟨none, .ok rest, 2⟩]).1 := by
  intro n head rest
  exact published_genuine dataTypeSeven true 0
    [.timer ⟨none, .ok head, 1⟩, .timer ⟨none, .ok rest, 2⟩]
    ⟨fun _ => rfl, fun _ => rfl, trivial⟩

/-- A genuine message takes as many bytes of its session as its frame has. -/
theorem Genuine.length_le {events events' : List Event} {msg : SerialReceiveData}
    (h : Genuine f s (events ++ .published msg :: events')) :
    f.len ≤ (sessionAfter s events).length := by
  obtain ⟨-, hmsg, -⟩ := genuine_append.1 h
  obtain ⟨w, hw, hin, -⟩ := hmsg msg rfl
  exact hw ▸ hin.length_le

/-- A message is not genuine after a short read: the last byte of its payload is the
    zero after the 13 bytes that were read. Nor is it after an exception other than
    `serial::IOException` in the middle of a frame: its two halves were read in two
    sessions. -/
theorem published_not_genuine :
    let n := ReceiveNode.init dataTypeSeven true 0
    let bytes : List Byte := [0x01, 0x90, 1, 1, 0, 0, 0x01, 0x2c, 0x13, 0x88, 0x13, 0x88, 2]
    let short : Delivery := ⟨14, bytes, by decide⟩
    let full : Delivery := ⟨13, bytes, by decide⟩
    let tail : Delivery := ⟨2, [0xbe, 0xdd], by decide⟩
    let tail' : Delivery := ⟨3, [0, 0xbe, 0xdd], by decide⟩
    ¬Genuine n.format [] (n.run [.timer ⟨none, .ok short, 1⟩, .timer ⟨none, .ok tail, 2⟩]).1 ∧
    ¬Genuine n.format [] (n.run [.timer ⟨none, .ok full, 1⟩, .timer ⟨none, .error .other, 2⟩,
      .timer ⟨none, .ok tail', 3⟩]).1 := by
  intro n bytes short full tail tail'
  let msg := (⟨400, 1, 1, 300, 5000, 5000, 2, 0⟩ : RecordSeven).msg
  have hshort : (n.run [.timer ⟨none, .ok short, 1⟩, .timer ⟨none, .ok tail, 2⟩]).1 =
      [.opened, .received bytes, .received tail.bytes] ++ [.published msg] := by decide
  have hfull : (n.run [.timer ⟨none, .ok full, 1⟩, .timer ⟨none, .error .other, 2⟩,
      .timer ⟨none, .ok tail', 3⟩]).1 =
      [.opened, .received bytes, .closed, .opened, .received tail'.bytes] ++ [.published msg] := by
    decide
  rw [hshort, hfull]
  exact ⟨fun h => absurd h.length_le (by decide), fun h => absurd h.length_le (by decide)⟩

end Sentry.Talker
