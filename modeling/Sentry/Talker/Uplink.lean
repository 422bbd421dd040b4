import Sentry.Talker.Session

/-!
# The uplink

The packets the node writes, as the lower controller reads them (`decodeCommands`).
Every packet is that of the state after the step that writes it, and it is written
while the port is open (`ReceiveNode.step_written`), so what a packet says is what
the node was told last (`written_latest`).

The flag `enable_downlink_receive` guards the whole timer callback, the only place
where the port is opened: without it, nothing is ever written (`run_disabled`), and
the two settings write the same packets just when nothing is due with it either
(`written_eq_iff`).
-/

namespace Sentry.Talker

/-! ## Commands -/

/-- The commands the node was told: the scaled velocities and the mode. -/
structure Commands where
  vx : ℤ := 0
  vy : ℤ := 0
  vz : ℤ := 0
  mode : ℤ := 0
  deriving DecidableEq

/-- The integer part of a number, towards zero. -/
def truncate (x : ℚ) : ℤ := if 0 ≤ x then ⌊x⌋ else ⌈x⌉

/-- The range of an `int16_t`. -/
def InInt16 (v : ℤ) : Prop := -32768 ≤ v ∧ v ≤ 32767

/-- The commands after an input. -/
def Commands.after (c : Commands) : Input → Commands
  | .cmdVel msg round => { c with
      vx := truncate (round (2000 * msg.linearX))
      vy := truncate (round (2000 * msg.linearY))
      vz := truncate (round (2000 * msg.angularZ)) }
  | .sentryMode data => { c with mode := max 0 (min 255 data.toInt) }
  | .timer _ => c

/-- The latest commands of some inputs, all zero before the first ones. -/
def Commands.latest (inputs : List Input) : Commands := inputs.foldl Commands.after {}

/-- The scaled velocities of a `Twist` are in the range of an `int16_t`. -/
def Input.InRange : Input → Prop
  | .cmdVel msg round =>
    InInt16 (truncate (round (2000 * msg.linearX))) ∧
      InInt16 (truncate (round (2000 * msg.linearY))) ∧
      InInt16 (truncate (round (2000 * msg.angularZ)))
  | _ => True

/-- The commands in a packet: 10 bytes between `0xff` and `0xdd`, each velocity in two
    bytes, big-endian in two's complement, then the mode, and a zero. -/
def decodeCommands : List Byte → Option Commands
  | [head, vx₁, vx₀, vy₁, vy₀, vz₁, vz₀, mode, reserved, tail] =>
    if head = 0xff ∧ reserved = 0 ∧ tail = 0xdd then
      some ⟨(vx₁ ++ vx₀).toInt, (vy₁ ++ vy₀).toInt, (vz₁ ++ vz₀).toInt, mode.toNat⟩
    else none
  | _ => none

theorem highByte_append_lowByte (v : BitVec 16) : highByte v ++ lowByte v = v := by
  have hmask : ∀ b : Byte, b &&& 255 = b := fun b => BitVec.and_allOnes
  ext i hi
  simp [highByte, lowByte]
  grind

theorem toInt_toInt16 {x : ℚ} (h : InInt16 (truncate x)) : (toInt16 x).toInt = truncate x := by
  have hx : toInt16 x = BitVec.ofInt 16 (truncate x) := rfl
  obtain ⟨hlow, hhigh⟩ := h
  rw [hx, BitVec.toInt_ofInt, Int.bmod_eq_of_le] <;> omega

namespace ReceiveNode

/-! ## Packets -/

/-- The caches of the node hold some commands. -/
structure Caches (n : ReceiveNode) (c : Commands) : Prop where
  vx : n.cachedVx.toInt = c.vx
  vy : n.cachedVy.toInt = c.vy
  vz : n.cachedVz.toInt = c.vz
  mode : n.cachedSentryMode.toNat = c.mode

/-- The flag `is_serial_open_` after an event: set when the port is opened, cleared when
    it is closed. -/
def port (isOpen : Bool) : Event → Bool
  | .opened => true
  | .closed => false
  | _ => isOpen

/-- The flag after some events. -/
def portAfter (isOpen : Bool) (events : List Event) : Bool := events.foldl port isOpen

/-- All packets in some events are equal to `packet`, and they are written while the port
    is open. -/
def Writes (packet : List Byte) (isOpen : Bool) (events : List Event) : Prop :=
  ∀ es p es', events = es ++ .written p :: es' → p = packet ∧ portAfter isOpen es = true

variable {n : ReceiveNode} {c : Commands} {t : Tick} {i : Input} {packet : List Byte}
  {isOpen : Bool} {events : List Event}

/-- The packet of a node says what its caches hold. -/
theorem Caches.decode (h : n.Caches c) : decodeCommands n.packet = some c := by
  simp [decodeCommands, packet, sendCmdPacket, highByte_append_lowByte, h.vx, h.vy, h.vz, h.mode]

theorem writes_nil : Writes packet isOpen [] := by
  intro es p es' h
  simp at h

theorem writes_cons {e : Event} (he : ∀ p, e ≠ .written p)
    (h : Writes packet (port isOpen e) events) : Writes packet isOpen (e :: events) := by
  intro es p es' hsplit
  cases es with
  | nil => exact absurd (List.cons.inj hsplit).1 (he p)
  | cons e' es =>
    obtain ⟨rfl, hrest⟩ := List.cons.inj hsplit
    exact h es p es' hrest

/-- A packet that is written while the port is open. -/
theorem writes_packet (packet : List Byte) : Writes packet true [.written packet] := by
  intro es p es' hsplit
  cases es with
  | nil =>
    obtain ⟨hp, -⟩ := List.cons.inj hsplit
    exact ⟨(Event.written.inj hp).symm, rfl⟩
  | cons e es => simp at hsplit

theorem writes_published (msgs : List SerialReceiveData) (h : Writes packet isOpen events) :
    Writes packet isOpen (msgs.map .published ++ events) := by
  induction msgs with
  | nil => exact h
  | cons msg msgs ih => exact writes_cons (by simp) ih

theorem portAfter_published (isOpen : Bool) (msgs : List SerialReceiveData)
    (events : List Event) :
    portAfter isOpen (msgs.map .published ++ events) = portAfter isOpen events := by
  induction msgs with
  | nil => rfl
  | cons msg msgs ih => exact ih

/-! ## Steps -/

@[simp] theorem sendIdle_packet (now : ℤ) : (n.sendIdle now).2.packet = n.packet := by
  rw [sendIdle]
  split <;> rfl

theorem sendIdle_port (now : ℤ) : portAfter isOpen (n.sendIdle now).1 = isOpen := by
  rw [sendIdle]
  split <;> rfl

theorem sendIdle_writes (n : ReceiveNode) (now : ℤ) :
    Writes n.packet true (n.sendIdle now).1 := by
  rw [sendIdle]
  split
  · exact writes_packet n.packet
  · exact writes_nil

/-- After an input in range, the caches hold the commands of the input. -/
theorem step_caches (h : n.Caches c) (hi : i.InRange) : (n.step i).2.Caches (c.after i) := by
  cases i with
  | cmdVel msg round =>
    obtain ⟨hx, hy, hz⟩ := hi
    have hcaches : (n.step (.cmdVel msg round)).2.Caches (c.after (.cmdVel msg round)) ↔
        { n with
          cachedVx := toInt16 (round (msg.linearX * 2000))
          cachedVy := toInt16 (round (msg.linearY * 2000))
          cachedVz := toInt16 (round (msg.angularZ * 2000)) }.Caches
            (c.after (.cmdVel msg round)) := by
      simp only [step, cmdVelCallback]
      split <;> rfl
    -- the source multiplies by 2000 from the right
    rw [hcaches, mul_comm msg.linearX, mul_comm msg.linearY, mul_comm msg.angularZ]
    exact ⟨toInt_toInt16 hx, toInt_toInt16 hy, toInt_toInt16 hz, h.mode⟩
  | sentryMode data =>
    have hmode : ((BitVec.ofInt 8 (clamp data.toInt 0 255)).toNat : ℤ) =
        max 0 (min 255 data.toInt) := by
      rw [clamp, BitVec.toNat_ofInt]
      split
      · omega
      · split <;> omega
    simp only [step, sentryModeCallback]
    split <;> exact ⟨h.vx, h.vy, h.vz, hmode⟩
  | timer t =>
    obtain ⟨_, _, _, _, hframe⟩ := n.timerCallback_frame t
    rw [step, hframe]
    exact ⟨h.vx, h.vy, h.vz, h.mode⟩

/-- With the port open, a tick writes the packet of its caches, and the flag is what the
    events say. -/
theorem serve_writes (hopen : n.isSerialOpen = true) :
    Writes (n.serve t).2.packet true (n.serve t).1 ∧
      portAfter true (n.serve t).1 = (n.serve t).2.isSerialOpen := by
  rw [serve]
  split
  next e _ =>
    refine ⟨writes_cons (by simp) writes_nil, ?_⟩
    cases e <;> rfl
  · refine ⟨?_, ?_⟩
    · rw [sendIdle_packet]
      exact writes_cons (by simp) (writes_published _ (sendIdle_writes _ _))
    · rw [sendIdle_isSerialOpen]
      exact (portAfter_published _ _ _).trans ((sendIdle_port _).trans hopen.symm)

/-- A step writes the packet of the state after it, only while the port is open, and the
    flag after it is what its events say. -/
theorem step_writes (n : ReceiveNode) (i : Input) :
    Writes (n.step i).2.packet n.isSerialOpen (n.step i).1 ∧
      portAfter n.isSerialOpen (n.step i).1 = (n.step i).2.isSerialOpen := by
  cases i with
  | cmdVel msg round =>
    simp only [step, cmdVelCallback]
    split
    · exact ⟨writes_nil, rfl⟩
    next hopen =>
      have hopen : n.isSerialOpen = true := by simpa using hopen
      exact ⟨hopen ▸ writes_packet _, rfl⟩
  | sentryMode data =>
    simp only [step, sentryModeCallback]
    split
    · exact ⟨writes_nil, rfl⟩
    next hopen =>
      have hopen : n.isSerialOpen = true := by simpa using hopen
      exact ⟨hopen ▸ writes_packet _, rfl⟩
  | timer t =>
    simp only [step, timerCallback]
    split
    · exact ⟨writes_nil, rfl⟩
    · split
      next hopen =>
        rw [hopen]
        exact serve_writes hopen
      · split
        · exact ⟨writes_nil, rfl⟩
        · obtain ⟨hwrites, hport⟩ := serve_writes (t := t)
            (n := { n with isSerialOpen := true, reportedSerialOpenFailure := false }) rfl
          exact ⟨writes_cons (by simp) hwrites, hport⟩

/-- A packet that a step writes says the mode cached after it. -/
theorem step_decode (h : .written packet ∈ (n.step i).1) :
    ∃ c, decodeCommands packet = some c ∧ c.mode = (n.step i).2.cachedSentryMode.toNat := by
  obtain ⟨es, es', hevents⟩ := List.append_of_mem h
  obtain ⟨rfl, -⟩ := (step_writes n i).1 es packet es' hevents
  have hcaches : (n.step i).2.Caches ⟨(n.step i).2.cachedVx.toInt, (n.step i).2.cachedVy.toInt,
      (n.step i).2.cachedVz.toInt, (n.step i).2.cachedSentryMode.toNat⟩ := ⟨rfl, rfl, rfl, rfl⟩
  exact ⟨_, hcaches.decode, rfl⟩

/-! ## Runs -/

theorem portAfter_append (isOpen : Bool) (events events' : List Event) :
    portAfter isOpen (events ++ events') = portAfter (portAfter isOpen events) events' :=
  List.foldl_append

/-- The flag is what the events of the run say. -/
theorem run_port (n : ReceiveNode) (inputs : List Input) :
    portAfter n.isSerialOpen (n.run inputs).1 = (n.run inputs).2.isSerialOpen := by
  induction inputs generalizing n with
  | nil => rfl
  | cons i inputs ih => rw [run, portAfter_append, (step_writes n i).2, ih]

/-- With inputs in range, the caches hold the latest commands. -/
theorem run_caches (h : n.Caches c) {inputs : List Input} (hinputs : ∀ i ∈ inputs, i.InRange) :
    (n.run inputs).2.Caches (inputs.foldl Commands.after c) := by
  induction inputs generalizing n c with
  | nil => exact h
  | cons i inputs ih =>
    obtain ⟨hi, hrest⟩ := List.forall_mem_cons.1 hinputs
    exact ih (step_caches h hi) hrest

end ReceiveNode

/-- In every run whose velocities are in range, a packet that a step writes says the latest
    commands, up to the input of the step, and it is written while the flag
    `is_serial_open_` is set; the flag is what the events of the run say. -/
theorem written_latest (dataType : String) (enableDownlinkReceive : Bool) (now : ℤ)
    (inputs : List Input) (h : ∀ i ∈ inputs, i.InRange) :
    let n := ReceiveNode.init dataType enableDownlinkReceive now
    ∀ before i after, inputs = before ++ i :: after →
      (n.run before).2.isSerialOpen = ReceiveNode.portAfter false (n.run before).1 ∧
      ∀ es packet es', ((n.run before).2.step i).1 = es ++ .written packet :: es' →
        decodeCommands packet = some (Commands.latest (before ++ [i])) ∧
          ReceiveNode.portAfter false ((n.run before).1 ++ es) = true := by
  intro n before i after hinputs
  have hport := n.run_port before
  refine ⟨hport.symm, fun es packet es' hevents => ?_⟩
  subst hinputs
  have hcaches : (n.run before).2.Caches (Commands.latest before) :=
    ReceiveNode.run_caches ⟨rfl, rfl, rfl, rfl⟩ fun i hi => h i (List.mem_append_left _ hi)
  have hstep := ReceiveNode.step_caches hcaches (h i (by simp))
  -- the packet is that of the state after the step
  obtain ⟨rfl, hopen⟩ := ((n.run before).2.step_writes i).1 es packet es' hevents
  refine ⟨?_, ?_⟩
  · rw [hstep.decode, Commands.latest, Commands.latest, List.foldl_append]
    rfl
  · rw [ReceiveNode.portAfter_append]
    exact hport ▸ hopen

/-- Rounded to 49 binary places, as the doubles between 8 and 16 are. -/
def round49 (x : ℚ) : ℚ := round (x * 2 ^ 49) / 2 ^ 49

/-- Two commands are told while the port is closed, the packet of the next tick says both:
    the velocity of -1 is -2000 on the line, the mode 300 is clamped. The double next to
    0.0045 is less than it, but its product is rounded to 9. -/
theorem written_latest_tick :
    let n := ReceiveNode.init dataTypeSeven true 0
    let before : List Input :=
      [.cmdVel ⟨-1, 5188146770730811 / 2 ^ 60, 0⟩ round49, .sentryMode 300]
    let tick : Input := .timer ⟨none, .ok ⟨0, [], by decide⟩, 100000000⟩
    decodeCommands [0xff, 0xf8, 0x30, 0x00, 0x09, 0, 0, 0xff, 0, 0xdd] =
        some (Commands.latest (before ++ [tick])) ∧
      ReceiveNode.portAfter false ((n.run before).1 ++ [.opened, .received []]) = true := by
  intro n before tick
  have hrange : ∀ i ∈ before ++ [tick], i.InRange := by
    simp only [before, tick, List.cons_append, List.nil_append, List.forall_mem_cons,
      Input.InRange, InInt16, List.not_mem_nil, false_implies, implies_true, and_true]
    decide +kernel
  exact (written_latest dataTypeSeven true 0 (before ++ [tick]) hrange before tick [] rfl).2
    [.opened, .received []] _ [] (by decide +kernel)

/-! ## Without reception -/

/-- The packets written. -/
def written : List Event → List (List Byte)
  | [] => []
  | .written packet :: events => packet :: written events
  | _ :: events => written events

/-- Nothing is due to be written by a node that started at the time `start`, with its port
    open or closed: the port is closed whenever a command comes, and a tick that gets to
    the end of its reading comes less than 100 ms after the start. -/
def Quiet (start : ℤ) : Bool → List Input → Prop
  | _, [] => True
  | isOpen, .timer t :: inputs =>
    if isOpen = false ∧ t.openError ≠ none then Quiet start false inputs
    else
      match t.delivery with
      | .error _ => Quiet start false inputs
      | .ok _ => t.now - start < 100000000 ∧ Quiet start true inputs
  | isOpen, _ :: inputs => isOpen = false ∧ Quiet start isOpen inputs

@[simp] theorem written_append (events events' : List Event) :
    written (events ++ events') = written events ++ written events' := by
  induction events with
  | nil => rfl
  | cons e events ih => cases e <;> simp [written, ih]

@[simp] theorem written_published (msgs : List SerialReceiveData) :
    written (msgs.map .published) = [] := by
  induction msgs with
  | nil => rfl
  | cons msg msgs ih => exact ih

namespace ReceiveNode

variable {n : ReceiveNode} {t : Tick} {inputs : List Input}

/-- Without reception, the node does nothing but keep the commands. -/
theorem run_disabled (henable : n.enableDownlinkReceive = false) (hopen : n.isSerialOpen = false)
    (inputs : List Input) : (n.run inputs).1 = [] := by
  induction inputs generalizing n with
  | nil => rfl
  | cons i inputs ih =>
    have hstep : (n.step i).1 = [] ∧ (n.step i).2.enableDownlinkReceive = false ∧
        (n.step i).2.isSerialOpen = false := by
      cases i <;>
        simp [step, cmdVelCallback, sentryModeCallback, timerCallback, henable, hopen]
    rw [run, hstep.1, ih hstep.2.1 hstep.2.2]
    rfl

/-- A tick whose reading fails writes nothing. -/
theorem serve_error {e : SerialError} (h : t.delivery = .error e) :
    written (n.serve t).1 = [] ∧ (n.serve t).2 = n.disconnect e := by
  simp [serve, h, written]

/-- A tick that reads writes nothing just when the last packet is less than 100 ms old. -/
theorem serve_ok {d : Delivery} (h : t.delivery = .ok d) :
    (written (n.serve t).1 = [] ↔ t.now - n.lastIdleCmdSendTime < 100000000) ∧
      (t.now - n.lastIdleCmdSendTime < 100000000 →
        (n.serve t).2 = { n with buffer := (n.parse (n.buffer ++ d.temp)).2 }) := by
  simp only [serve, h, sendIdle]
  split
  next hdue =>
    have hdue : ¬t.now - n.lastIdleCmdSendTime < 100000000 := by simpa using hdue
    simp [written, hdue]
  next hdue =>
    have hdue : t.now - n.lastIdleCmdSendTime < 100000000 := by simpa using hdue
    simp [written, hdue]

/-- With reception, a run writes nothing just when nothing is due. -/
theorem run_quiet (henable : n.enableDownlinkReceive = true) (inputs : List Input) :
    written (n.run inputs).1 = [] ↔ Quiet n.lastIdleCmdSendTime n.isSerialOpen inputs := by
  induction inputs generalizing n with
  | nil => simp [run, written, Quiet]
  | cons i inputs ih =>
    -- with the port open, before the tick or since its start, it goes on to read
    have hserve : ∀ (n : ReceiveNode) (t : Tick), n.enableDownlinkReceive = true →
        n.isSerialOpen = true →
        (written (n.serve t).1 ++ written ((n.serve t).2.run inputs).1 = [] ↔
          match t.delivery with
          | .error _ => Quiet n.lastIdleCmdSendTime false inputs
          | .ok _ => t.now - n.lastIdleCmdSendTime < 100000000 ∧
              Quiet n.lastIdleCmdSendTime true inputs) := by
      intro n t henable hopen
      rcases hdelivery : t.delivery with e | d
      · obtain ⟨hwritten, hnext⟩ := serve_error (n := n) hdelivery
        rw [hwritten, hnext, List.nil_append]
        cases e <;> exact ih henable
      · obtain ⟨hwritten, hnext⟩ := serve_ok (n := n) hdelivery
        rw [List.append_eq_nil_iff, hwritten]
        refine and_congr_right fun hdue => ?_
        rw [hnext hdue, ← hopen]
        exact ih henable
    cases i with
    | cmdVel msg round =>
      simp only [run, step, cmdVelCallback, written_append, Quiet]
      split
      next hopen => simp_all [written]
      next hopen => simp_all [written]
    | sentryMode data =>
      simp only [run, step, sentryModeCallback, written_append, Quiet]
      split
      next hopen => simp_all [written]
      next hopen => simp_all [written]
    | timer t =>
      simp only [run, step, timerCallback, henable, written_append, Quiet]
      cases hopen : n.isSerialOpen with
      | true => simpa using hserve n t henable hopen
      | false =>
        cases herror : t.openError with
        | some e =>
          have hrest := ih (n := { n with reportedSerialOpenFailure := true }) henable
          simpa [hopen, henable, written] using hrest
        | none =>
          have hopened := hserve
            { n with isSerialOpen := true, reportedSerialOpenFailure := false } t henable rfl
          simpa [henable, written] using hopened

end ReceiveNode

/-- Without reception, the node writes the same packets as with it just when, with it,
    nothing is due: no command comes while the port is open, and no reading ends 100 ms
    after the start or later. -/
theorem written_eq_iff (dataType : String) (now : ℤ) (inputs : List Input) :
    written ((ReceiveNode.init dataType false now).run inputs).1 =
        written ((ReceiveNode.init dataType true now).run inputs).1 ↔
      Quiet now false inputs := by
  have hdisabled : ((ReceiveNode.init dataType false now).run inputs).1 = [] :=
    ReceiveNode.run_disabled rfl rfl inputs
  rw [hdisabled, eq_comm]
  exact ReceiveNode.run_quiet (n := ReceiveNode.init dataType true now) rfl inputs

/-- The port is opened without fault, nothing is received, then a velocity is commanded:
    without reception it is never sent. -/
theorem written_ne_cmdVel :
    ¬∀ dataType now inputs,
      (∀ t, .timer t ∈ inputs → ∀ d, t.delivery = .ok d → d.bytes = []) →
      written ((ReceiveNode.init dataType false now).run inputs).1 =
        written ((ReceiveNode.init dataType true now).run inputs).1 := by
  intro h
  have hsame := h dataTypeSeven 0
    [.timer ⟨none, .ok ⟨0, [], by decide⟩, 50000000⟩, .cmdVel ⟨1, 0, 0⟩ id] (by simp)
  revert hsame
  decide +kernel

end Sentry.Talker
