import Mathlib.Data.Rat.Floor
import Sentry.Talker.Parse

/-!
# The serial node

The node `talker` between the ROS topics and the serial port, as a state machine:
its callbacks take a state and an input to a next state and the events they cause.

The inputs of a timer tick are what the calls to the serial library do in it
(`Tick`): `open` may throw, `available` or `read` may throw, and `read` returns the
bytes that have come, which may be fewer than it was asked for. Closing the port
succeeds, and an exception thrown by `write` is swallowed where it is called.

The components of a `Twist` are doubles, and so are their products with 2000: the exact
ones, rounded. How a product is rounded comes with the input (`Input.cmdVel`), so what
holds of the node holds for the rounding of doubles, and for exact products (`id`).

What the node only prints is left out: the label of the current behavior, the
summaries of the last message sent and received, and the times they are logged.
-/

namespace Sentry.Talker

/-! ## Inputs and events -/

/-- What the serial library throws: a `serial::IOException`, or another exception. -/
inductive SerialError
  | io
  | other
  deriving DecidableEq

/-- What `read` returns, asked for the `available` bytes, once the vector for them is
    allocated. -/
structure Delivery where
  available : ℕ
  bytes : List Byte
  length_le : bytes.length ≤ available

/-- The vector that `read` fills: it starts with the bytes delivered, and its other
    bytes stay zero. -/
def Delivery.temp (d : Delivery) : List Byte :=
  d.bytes ++ List.replicate (d.available - d.bytes.length) 0

/-- The behavior of the serial library in a timer tick, and the time of the tick in
    nanoseconds. -/
structure Tick where
  /-- What `open` throws, if it is called. -/
  openError : Option SerialError
  /-- What `available`, the allocation of the vector or `read` throws, or what is read; with
      nothing available, `read` is not called. -/
  delivery : Except SerialError Delivery
  now : ℤ

/-- The components of a `Twist` that are sent, finite doubles. -/
structure Twist where
  linearX : ℚ
  linearY : ℚ
  angularZ : ℚ

/-- What makes the node run a callback. -/
inductive Input
  /-- A velocity comes, and products are rounded by `round`. -/
  | cmdVel (msg : Twist) (round : ℚ → ℚ)
  | sentryMode (data : BitVec 32)
  | timer (t : Tick)

/-- What the callbacks do outside of the node. -/
inductive Event
  /-- The port is opened. -/
  | opened
  /-- The port is closed. -/
  | closed
  /-- The bytes returned by `read`. -/
  | received (bytes : List Byte)
  /-- A message is published. -/
  | published (msg : SerialReceiveData)
  /-- A packet is handed to `write`. -/
  | written (packet : List Byte)
  deriving DecidableEq

/-! ## The state -/

/-- The state of the node. -/
structure ReceiveNode where
  dataType : String
  enableDownlinkReceive : Bool
  isSerialOpen : Bool := false
  reportedSerialOpenFailure : Bool := false
  buffer : List Byte := []
  cachedVx : BitVec 16 := 0
  cachedVy : BitVec 16 := 0
  cachedVz : BitVec 16 := 0
  cachedSentryMode : Byte := 0
  lastIdleCmdSendTime : ℤ

/-- `static_cast<int16_t>`: towards zero, then reduced to 16 bits. -/
def toInt16 (x : ℚ) : BitVec 16 := BitVec.ofInt 16 (if 0 ≤ x then ⌊x⌋ else ⌈x⌉)

/-- `std::clamp`. -/
def clamp (v lo hi : ℤ) : ℤ := if v < lo then lo else if hi < v then hi else v

/-- The high byte of an axis, `(v >> 8) & 0xFF`. -/
def highByte (v : BitVec 16) : Byte := (((v.signExtend 32).sshiftRight 8) &&& 0xFF).setWidth 8

/-- The low byte of an axis, `v & 0xFF`. -/
def lowByte (v : BitVec 16) : Byte := ((v.signExtend 32) &&& 0xFF).setWidth 8

namespace ReceiveNode

/-! ## The callbacks -/

/-- `send_cmd_packet`: the packet it writes. -/
def sendCmdPacket (n : ReceiveNode) (vx vy vz : BitVec 16) : List Byte :=
  [0xff, highByte vx, lowByte vx, highByte vy, lowByte vy, highByte vz, lowByte vz,
    n.cachedSentryMode, 0, 0xdd]

/-- The packet with the latest commands. -/
def packet (n : ReceiveNode) : List Byte := n.sendCmdPacket n.cachedVx n.cachedVy n.cachedVz

/-- `cmd_vel_callback` -/
def cmdVelCallback (n : ReceiveNode) (msg : Twist) (round : ℚ → ℚ) :
    List Event × ReceiveNode :=
  let n := { n with
    cachedVx := toInt16 (round (msg.linearX * 2000))
    cachedVy := toInt16 (round (msg.linearY * 2000))
    cachedVz := toInt16 (round (msg.angularZ * 2000)) }
  if !n.isSerialOpen then ([], n) else ([.written n.packet], n)

/-- `sentry_mode_callback` -/
def sentryModeCallback (n : ReceiveNode) (data : BitVec 32) : List Event × ReceiveNode :=
  let clampedMode := clamp data.toInt 0 255
  let n := { n with cachedSentryMode := BitVec.ofInt 8 clampedMode }
  if !n.isSerialOpen then ([], n) else ([.written n.packet], n)

/-- The parser for the data type of the node. -/
def parse (n : ReceiveNode) (buffer : List Byte) : List SerialReceiveData × List Byte :=
  if n.dataType == dataTypeSeven then parseSeven buffer else parseThree buffer

/-- The `catch` blocks of `timer_callback`: only the one of `serial::IOException`
    clears the buffer. -/
def disconnect (n : ReceiveNode) : SerialError → ReceiveNode
  | .io => { n with isSerialOpen := false, buffer := [] }
  | .other => { n with isSerialOpen := false }

/-- The end of a tick: the latest commands are sent if they have not been for 100 ms. -/
def sendIdle (n : ReceiveNode) (now : ℤ) : List Event × ReceiveNode :=
  if 100000000 ≤ now - n.lastIdleCmdSendTime then
    ([.written n.packet], { n with lastIdleCmdSendTime := now })
  else ([], n)

/-- `timer_callback`, once the port is open: read, parse, and send. -/
def serve (n : ReceiveNode) (t : Tick) : List Event × ReceiveNode :=
  match t.delivery with
  | .error e => ([.closed], n.disconnect e)
  | .ok d =>
    let parsed := n.parse (n.buffer ++ d.temp)
    let sent := { n with buffer := parsed.2 }.sendIdle t.now
    (.received d.bytes :: parsed.1.map .published ++ sent.1, sent.2)

/-- `timer_callback` -/
def timerCallback (n : ReceiveNode) (t : Tick) : List Event × ReceiveNode :=
  if !n.enableDownlinkReceive then ([], n)
  else if n.isSerialOpen then n.serve t
  else
    match t.openError with
    | some _ => ([], { n with reportedSerialOpenFailure := true })
    | none =>
      let served := { n with isSerialOpen := true, reportedSerialOpenFailure := false }.serve t
      (.opened :: served.1, served.2)

/-- The callback for an input. -/
def step (n : ReceiveNode) : Input → List Event × ReceiveNode
  | .cmdVel msg round => n.cmdVelCallback msg round
  | .sentryMode data => n.sentryModeCallback data
  | .timer t => n.timerCallback t

/-- The callbacks for some inputs, one after the other. -/
def run (n : ReceiveNode) : List Input → List Event × ReceiveNode
  | [] => ([], n)
  | i :: inputs =>
    let next := n.step i
    let rest := next.2.run inputs
    (next.1 ++ rest.1, rest.2)

/-- The node when it starts. -/
def init (dataType : String) (enableDownlinkReceive : Bool) (now : ℤ) : ReceiveNode where
  dataType := dataType
  enableDownlinkReceive := enableDownlinkReceive
  lastIdleCmdSendTime := now

/-! ## What the callbacks keep -/

variable (n : ReceiveNode)

@[simp] theorem sendIdle_buffer (now : ℤ) : (n.sendIdle now).2.buffer = n.buffer := by
  rw [sendIdle]
  split <;> rfl

@[simp] theorem sendIdle_isSerialOpen (now : ℤ) :
    (n.sendIdle now).2.isSerialOpen = n.isSerialOpen := by
  rw [sendIdle]
  split <;> rfl

/-- Sending the latest commands changes nothing but the time it was done. -/
theorem sendIdle_frame (now : ℤ) :
    ∃ time, (n.sendIdle now).2 = { n with lastIdleCmdSendTime := time } := by
  rw [sendIdle]
  split
  · exact ⟨now, rfl⟩
  · exact ⟨n.lastIdleCmdSendTime, rfl⟩

theorem serve_frame (t : Tick) :
    ∃ isOpen buffer time, (n.serve t).2 =
      { n with isSerialOpen := isOpen, buffer := buffer, lastIdleCmdSendTime := time } := by
  rw [serve]
  split
  next e _ =>
    cases e with
    | io => exact ⟨false, [], n.lastIdleCmdSendTime, rfl⟩
    | other => exact ⟨false, n.buffer, n.lastIdleCmdSendTime, rfl⟩
  next d _ =>
    let parsed : ReceiveNode := { n with buffer := (n.parse (n.buffer ++ d.temp)).2 }
    obtain ⟨time, htime⟩ := parsed.sendIdle_frame t.now
    exact ⟨n.isSerialOpen, parsed.buffer, time, htime⟩

/-- A timer tick changes the port, the buffer and the time of the last packet. -/
theorem timerCallback_frame (t : Tick) :
    ∃ isOpen reported buffer time, (n.timerCallback t).2 =
      { n with
        isSerialOpen := isOpen
        reportedSerialOpenFailure := reported
        buffer := buffer
        lastIdleCmdSendTime := time } := by
  rw [timerCallback]
  split
  · exact ⟨_, _, _, _, rfl⟩
  · split
    · obtain ⟨isOpen, buffer, time, h⟩ := n.serve_frame t
      exact ⟨isOpen, _, buffer, time, h⟩
    · split
      · exact ⟨_, true, _, _, rfl⟩
      · let opened : ReceiveNode :=
          { n with isSerialOpen := true, reportedSerialOpenFailure := false }
        obtain ⟨isOpen, buffer, time, h⟩ := opened.serve_frame t
        exact ⟨isOpen, false, buffer, time, h⟩

@[simp] theorem step_dataType (i : Input) : (n.step i).2.dataType = n.dataType := by
  cases i with
  | cmdVel msg round =>
    simp only [step, cmdVelCallback]
    split <;> rfl
  | sentryMode data =>
    simp only [step, sentryModeCallback]
    split <;> rfl
  | timer t =>
    obtain ⟨_, _, _, _, h⟩ := n.timerCallback_frame t
    rw [step, h]

/-- A mode is cached, in one byte. -/
theorem sentryMode_cachedSentryMode (data : BitVec 32) :
    (n.step (.sentryMode data)).2.cachedSentryMode =
      BitVec.ofInt 8 (clamp data.toInt 0 255) := by
  simp only [step, sentryModeCallback]
  split <;> rfl

/-- Only a mode changes the mode cached. -/
theorem step_cachedSentryMode {i : Input} (h : ∀ data, i ≠ .sentryMode data) :
    (n.step i).2.cachedSentryMode = n.cachedSentryMode := by
  cases i with
  | cmdVel msg round =>
    simp only [step, cmdVelCallback]
    split <;> rfl
  | sentryMode data => exact absurd rfl (h data)
  | timer t =>
    obtain ⟨_, _, _, _, h⟩ := n.timerCallback_frame t
    rw [step, h]

/-- The format of the parser. -/
def format : FrameFormat :=
  if n.dataType == dataTypeSeven then formatSeven else formatThree

theorem parse_eq (buffer : List Byte) :
    n.parse buffer = n.format.parse buffer := by
  rw [parse, format]
  split <;> rfl

@[simp] theorem step_format (i : Input) : (n.step i).2.format = n.format := by
  rw [format, format, step_dataType]

/-! ## What is published -/

variable {n} {msg : SerialReceiveData}

theorem sendIdle_published (now : ℤ) : .published msg ∉ (n.sendIdle now).1 := by
  rw [sendIdle]
  split <;> simp

/-- The messages of a tick are those of windows. -/
theorem serve_published {t : Tick} (h : .published msg ∈ (n.serve t).1) :
    ∃ w, n.format.framing.IsWindow w ∧ msg = n.format.toMsg w := by
  rw [serve] at h
  split at h
  · simp at h
  next d _ =>
    have hmsg : msg ∈ (n.parse (n.buffer ++ d.temp)).1 := by
      simpa [sendIdle_published] using h
    obtain ⟨ws, hscan, hmsgs⟩ := n.format.parse_scan (n.buffer ++ d.temp)
    rw [parse_eq, hmsgs] at hmsg
    obtain ⟨w, hw, rfl⟩ := List.mem_map.1 hmsg
    exact ⟨w, Framing.Format.Lossy.run_isWindow hscan.lossy w hw, rfl⟩

/-- The messages of a step are those of windows. -/
theorem step_published {i : Input} (h : .published msg ∈ (n.step i).1) :
    ∃ w, n.format.framing.IsWindow w ∧ msg = n.format.toMsg w := by
  cases i with
  | cmdVel =>
    simp only [step, cmdVelCallback] at h
    split at h <;> simp at h
  | sentryMode =>
    simp only [step, sentryModeCallback] at h
    split at h <;> simp at h
  | timer t =>
    simp only [step, timerCallback] at h
    split at h
    · simp at h
    · split at h
      · exact serve_published h
      · split at h
        · simp at h
        · exact serve_published (n := { n with
            isSerialOpen := true, reportedSerialOpenFailure := false }) (by simpa using h)

end ReceiveNode

end Sentry.Talker
