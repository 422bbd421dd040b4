import Sentry.Narrowing
import Sentry.Talker.Uplink

/-!
# The velocity in the packets

With exact products, the packet of a `Twist` (`ReceiveNode.Sends`) has 2000 times each
component, towards zero, narrowed to 16 bits. `sentry_mode_callback` clamps the mode
before it narrows it, but `cmd_vel_callback` does not: a component of more than 16 m/s
wraps around, and may come out with the opposite sign (`not_saturating_fast`).

The packets of two velocities are saturated, of the right sign and in the right order just
when both velocities are narrowed to what they saturate to, on every axis
(`saturating_iff`).
-/

namespace Sentry.Talker

/-! ## Axes -/

/-- The axes of a velocity. -/
inductive Axis
  | vx
  | vy
  | vz

/-- The component of a `Twist` on an axis. -/
def Twist.axis (msg : Twist) : Axis → ℚ
  | .vx => msg.linearX
  | .vy => msg.linearY
  | .vz => msg.angularZ

/-- The velocity on an axis, as a packet says it. -/
def Commands.axis (c : Commands) : Axis → ℤ
  | .vx => c.vx
  | .vy => c.vy
  | .vz => c.vz

/-- 2000 times a component, towards zero. -/
def Twist.scaled (msg : Twist) (a : Axis) : ℤ := truncate (2000 * msg.axis a)

/-- Every axis is narrowed to 16 bits as it is saturated: it is in their range, or it wraps
    around to the end of the range that it is beyond. -/
def Twist.Saturates (msg : Twist) : Prop := ∀ a, Narrowing.Saturates 15 (msg.scaled a)

namespace ReceiveNode

/-- For a velocity, the node writes one packet, with the commands `c`; the products are not
    rounded. -/
def Sends (n : ReceiveNode) (msg : Twist) (c : Commands) : Prop :=
  ∃ packet, (n.cmdVelCallback msg id).1 = [.written packet] ∧ decodeCommands packet = some c

/-- The commands in the packet for a velocity. -/
def commands (n : ReceiveNode) (msg : Twist) : Commands where
  vx := (toInt16 (msg.linearX * 2000)).toInt
  vy := (toInt16 (msg.linearY * 2000)).toInt
  vz := (toInt16 (msg.angularZ * 2000)).toInt
  mode := n.cachedSentryMode.toNat

variable {n n' : ReceiveNode} {msg msg' : Twist} {c : Commands}

/-- While the port is open, the packet of a velocity is written at once. -/
theorem sends_iff (hopen : n.isSerialOpen = true) : n.Sends msg c ↔ c = n.commands msg := by
  let n' : ReceiveNode := { n with
    cachedVx := toInt16 (msg.linearX * 2000)
    cachedVy := toInt16 (msg.linearY * 2000)
    cachedVz := toInt16 (msg.angularZ * 2000) }
  have hcaches : n'.Caches (n.commands msg) := ⟨rfl, rfl, rfl, rfl⟩
  have hwritten : (n.cmdVelCallback msg id).1 = [.written n'.packet] := by
    simp only [cmdVelCallback, hopen]
    rfl
  rw [Sends, hwritten]
  constructor
  · rintro ⟨packet, hpacket, hc⟩
    obtain rfl : n'.packet = packet := by simpa using hpacket
    exact Option.some.inj (hc.symm.trans hcaches.decode)
  · rintro rfl
    exact ⟨n'.packet, rfl, hcaches.decode⟩

/-- On every axis, the packet has the scaled component, narrowed. -/
theorem axis_commands (n : ReceiveNode) (msg : Twist) (a : Axis) :
    (n.commands msg).axis a = (BitVec.ofInt 16 (msg.scaled a)).toInt := by
  cases a <;> simp only [commands, Commands.axis, toInt16, Twist.scaled, Twist.axis, truncate,
    mul_comm (2000 : ℚ)]

end ReceiveNode

/-! ## Saturation -/

theorem truncate_mono {x y : ℚ} (h : x ≤ y) : truncate x ≤ truncate y := by
  rw [truncate, truncate]
  by_cases hx : 0 ≤ x
  · rw [if_pos hx, if_pos (hx.trans h)]
    exact Int.floor_mono h
  · rw [if_neg hx]
    have hceil : ⌈x⌉ ≤ 0 := Int.ceil_le.2 (by exact_mod_cast (not_le.1 hx).le)
    by_cases hy : 0 ≤ y
    · rw [if_pos hy]
      exact hceil.trans (Int.floor_nonneg.2 hy)
    · rw [if_neg hy]
      exact Int.ceil_mono h

theorem truncate_zero : truncate 0 = 0 := by
  rw [truncate, if_pos le_rfl, Int.floor_zero]

theorem Twist.scaled_mono {msg msg' : Twist} {a : Axis} (h : msg.axis a ≤ msg'.axis a) :
    msg.scaled a ≤ msg'.scaled a :=
  truncate_mono (mul_le_mul_of_nonneg_left h (by norm_num))

theorem Twist.scaled_nonneg {msg : Twist} {a : Axis} (h : 0 ≤ msg.axis a) : 0 ≤ msg.scaled a := by
  rw [← truncate_zero]
  exact truncate_mono (mul_nonneg (by norm_num) h)

theorem Twist.scaled_nonpos {msg : Twist} {a : Axis} (h : msg.axis a ≤ 0) : msg.scaled a ≤ 0 := by
  rw [← truncate_zero]
  exact truncate_mono (mul_nonpos_of_nonneg_of_nonpos (by norm_num) h)

theorem clamp_eq_saturate (v : ℤ) : clamp v (-32768) 32767 = Narrowing.saturate 15 v := by
  rw [clamp, Narrowing.saturate]
  norm_num
  split
  · omega
  · split <;> omega

/-- What saturation promises of the commands sent for two velocities: they are the scaled
    components, clamped; they do not have the opposite sign; and the greater one of two
    components is sent as the greater one. -/
structure Saturating (msg msg' : Twist) (c c' : Commands) : Prop where
  clamped : ∀ a, c.axis a = clamp (msg.scaled a) (-32768) 32767
  clamped' : ∀ a, c'.axis a = clamp (msg'.scaled a) (-32768) 32767
  nonneg : ∀ a, 0 ≤ msg.axis a → 0 ≤ c.axis a
  nonpos : ∀ a, msg.axis a ≤ 0 → c.axis a ≤ 0
  mono : ∀ a, msg.axis a ≤ msg'.axis a → c.axis a ≤ c'.axis a

/-- The packet of a velocity is clamped just when the velocity saturates on every axis. -/
theorem clamped_iff (n : ReceiveNode) (msg : Twist) :
    (∀ a, (n.commands msg).axis a = clamp (msg.scaled a) (-32768) 32767) ↔ msg.Saturates := by
  refine forall_congr' fun a => ?_
  rw [n.axis_commands, clamp_eq_saturate]
  exact Narrowing.toInt_ofInt_eq_saturate_iff

/-- With the port open, two velocities are sent saturated just when both are narrowed as they
    are saturated. -/
theorem saturating_iff {n n' : ReceiveNode} (hopen : n.isSerialOpen = true)
    (hopen' : n'.isSerialOpen = true) (msg msg' : Twist) :
    (∃ c c', n.Sends msg c ∧ n'.Sends msg' c' ∧ Saturating msg msg' c c') ↔
      msg.Saturates ∧ msg'.Saturates := by
  simp only [ReceiveNode.sends_iff hopen, ReceiveNode.sends_iff hopen']
  constructor
  · rintro ⟨_, _, rfl, rfl, h⟩
    exact ⟨(clamped_iff n msg).1 h.clamped, (clamped_iff n' msg').1 h.clamped'⟩
  · rintro ⟨hmsg, hmsg'⟩
    have hclamped := (clamped_iff n msg).2 hmsg
    have hclamped' := (clamped_iff n' msg').2 hmsg'
    refine ⟨_, _, rfl, rfl, hclamped, hclamped', fun a ha => ?_, fun a ha => ?_, fun a ha => ?_⟩
    · rw [hclamped, clamp_eq_saturate]
      exact Narrowing.saturate_nonneg (Twist.scaled_nonneg ha)
    · rw [hclamped, clamp_eq_saturate]
      exact Narrowing.saturate_nonpos (Twist.scaled_nonpos ha)
    · rw [hclamped, hclamped', clamp_eq_saturate, clamp_eq_saturate]
      exact Narrowing.saturate_mono 15 (Twist.scaled_mono ha)

/-- The node after its first tick, which opens the port and reads nothing. -/
def openedNode : ReceiveNode :=
  ((ReceiveNode.init dataTypeSeven true 0).timerCallback ⟨none, .ok ⟨0, [], by decide⟩, 0⟩).2

/-- At -16 m/s and at 49.1515 m/s, one beyond the range by a multiple of its size. -/
theorem saturating_iff_ends :
    ∃ c c', openedNode.Sends ⟨-16, 1 / 4, 0⟩ c ∧
      openedNode.Sends ⟨98303 / 2000, 1 / 4, 3⟩ c' ∧
      Saturating ⟨-16, 1 / 4, 0⟩ ⟨98303 / 2000, 1 / 4, 3⟩ c c' := by
  refine (saturating_iff (by decide +kernel) (by decide +kernel) _ _).2 ⟨?_, ?_⟩
  · intro a
    cases a <;> decide +kernel
  · intro a
    cases a <;> decide +kernel

/-- 20 m/s are sent as -25536, to be read as -12.768 m/s. -/
theorem not_saturating_fast :
    ¬∀ (n n' : ReceiveNode) (msg msg' : Twist), n.isSerialOpen = true →
      n'.isSerialOpen = true →
      ∃ c c', n.Sends msg c ∧ n'.Sends msg' c' ∧ Saturating msg msg' c c' := by
  intro h
  have hopen : openedNode.isSerialOpen = true := by decide +kernel
  obtain ⟨c, c', hc, -, hsat⟩ := h openedNode openedNode ⟨20, 0, 0⟩ ⟨20, 0, 0⟩ hopen hopen
  obtain rfl := (ReceiveNode.sends_iff hopen).1 hc
  have hsign := hsat.nonneg .vx (by decide +kernel)
  revert hsign
  decide +kernel

end Sentry.Talker
