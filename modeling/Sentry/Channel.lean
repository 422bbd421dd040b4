import Mathlib.Data.List.Sublists

/-!
# Channels

A channel from a sender to a receiver that keeps order and may lose messages: its queue holds
messages sent, at most `depth` of them, the last ones if none is lost on the way. A channel
carries its history, and with it what it guarantees: what is received and what still waits are
messages sent, in order (`Channel.sublist`).

A channel that loses only the oldest message, and only for a newer one, keeps the last one sent
(`Channel.KeepsLast`). So once nothing waits, the receiver is up to date
(`Channel.KeepsLast.received_getLast?`).
-/

/-- A channel: the messages sent and received so far, and the queue, the oldest first. -/
structure Channel (α : Type*) (depth : ℕ) where
  sent : List α
  queue : List α
  received : List α
  depth_pos : 0 < depth
  length_le : queue.length ≤ depth
  sublist : (received ++ queue).Sublist sent

namespace Channel

variable {α : Type*} {depth : ℕ}

/-- The channel before anything is sent. -/
def empty : Channel α (depth + 1) where
  sent := []
  queue := []
  received := []
  depth_pos := Nat.succ_pos depth
  length_le := Nat.zero_le (depth + 1)
  sublist := List.Sublist.refl []

/-- The queue after a message is sent: the oldest one makes room for it if it has to. -/
def enqueue (depth : ℕ) (queue : List α) (m : α) : List α :=
  queue.drop (queue.length + 1 - depth) ++ [m]

/-- A message is sent. -/
def send (c : Channel α depth) (m : α) : Channel α depth where
  sent := c.sent ++ [m]
  queue := enqueue depth c.queue m
  received := c.received
  depth_pos := c.depth_pos
  length_le := by
    have hpos := c.depth_pos
    simp only [enqueue, List.length_append, List.length_drop, List.length_singleton]
    omega
  sublist := by
    have hdrop : (c.received ++ c.queue.drop (c.queue.length + 1 - depth)).Sublist
        (c.received ++ c.queue) :=
      (List.drop_sublist _ _).append_left c.received
    rw [enqueue, ← List.append_assoc]
    exact (hdrop.trans c.sublist).append_right [m]

/-- A message that waits is lost. -/
def drop (c : Channel α depth) {m : α} (older newer : List α)
    (h : c.queue = older ++ m :: newer) : Channel α depth where
  sent := c.sent
  queue := older ++ newer
  received := c.received
  depth_pos := c.depth_pos
  length_le := by
    have hle := c.length_le
    rw [h] at hle
    simp only [List.length_append, List.length_cons] at hle ⊢
    omega
  sublist := by
    have hsub := c.sublist
    rw [h] at hsub
    exact (((List.sublist_cons_self m newer).append_left older).append_left c.received).trans hsub

/-- The oldest message is lost, while a newer one waits. -/
def lose (c : Channel α depth) {m m' : α} {queue : List α} (h : c.queue = m :: m' :: queue) :
    Channel α depth :=
  c.drop [] (m' :: queue) h

/-- The oldest message is received. -/
def receive (c : Channel α depth) {m : α} {queue : List α} (h : c.queue = m :: queue) :
    Channel α depth where
  sent := c.sent
  queue := queue
  received := c.received ++ [m]
  depth_pos := c.depth_pos
  length_le := by
    have hle := c.length_le
    rw [h, List.length_cons] at hle
    omega
  sublist := by
    have hsub := c.sublist
    rwa [h, List.append_cons] at hsub

/-- The last message sent is the last one that was received or waits. -/
def KeepsLast (c : Channel α depth) : Prop :=
  (c.received ++ c.queue).getLast? = c.sent.getLast?

variable {c : Channel α depth} {m m' : α} {queue : List α}

/-- What is received was sent. -/
theorem mem_sent (h : m ∈ c.received ++ c.queue) : m ∈ c.sent := c.sublist.subset h

theorem keepsLast_empty : (empty : Channel α (depth + 1)).KeepsLast := rfl

theorem keepsLast_send (c : Channel α depth) (m : α) : (c.send m).KeepsLast := by
  change (c.received ++ enqueue depth c.queue m).getLast? = (c.sent ++ [m]).getLast?
  rw [enqueue, ← List.append_assoc, List.getLast?_concat, List.getLast?_concat]

theorem KeepsLast.lose (h : c.KeepsLast) (hqueue : c.queue = m :: m' :: queue) :
    (c.lose hqueue).KeepsLast := by
  rw [KeepsLast, hqueue, List.getLast?_append_cons, List.getLast?_cons_cons] at h
  exact (List.getLast?_append_cons c.received m' queue).trans h

theorem KeepsLast.receive (h : c.KeepsLast) (hqueue : c.queue = m :: queue) :
    (c.receive hqueue).KeepsLast := by
  rwa [KeepsLast, hqueue, List.append_cons] at h

/-- Once nothing waits, the last message received is the last one sent. -/
theorem KeepsLast.received_getLast? (h : c.KeepsLast) (hqueue : c.queue = []) :
    c.received.getLast? = c.sent.getLast? := by
  rwa [KeepsLast, hqueue, List.append_nil] at h

end Channel
