import Sentry.Talker.Codec

/-!
# Arbitrary bytes

What is published when anything may come over the line, in any chunks.

Every message is the record of a frame of format A or B among the bytes received,
and the frames of successive messages do not overlap (`published_windows`).

The messages depend on the chunks of the ticks, because format B is tried only once
the byte after the tail has come: a tick that ends right after the tail of such a frame
drops it (`FrameFormat.starved`). When this does not happen, the ticks publish what one
tick would with all the bytes, so the chunks do not matter (`published_of_neverStarved`).
-/

namespace Sentry.Talker

open Framing Transition

/-! ## The windows of the messages -/

namespace Codec

variable {R : Type} {K : Codec R}

/-- Every message is that of a frame in the stream, without overlap. -/
theorem receiveAll_windows (chunks : List (List Byte)) :
    ∃ ws, Format.InOrder ws chunks.flatten ∧
      List.Forall₂ (fun m w => ∃ r, m = K.msg r ∧
        (w = K.frame r ∧ K.Clean r ∨ w = K.frameB r ∧ frameTail ∉ K.payload r))
        (receiveAll K.format.parse [] chunks).1 ws := by
  obtain ⟨ws, hfeed, hmsgs⟩ := K.format.receiveAll_feed [] chunks
  refine ⟨ws, by simpa using hfeed.inOrder FrameFormat.trim_suffix, ?_⟩
  rw [hmsgs, List.forall₂_map_left_iff, List.forall₂_same]
  intro w hw
  obtain ⟨r, hr, hmsg⟩ := exists_record (hfeed.isWindow FrameFormat.trim_suffix w hw)
  exact ⟨r, hmsg, hr⟩

end Codec

/-- Whatever the bytes received, and the chunks of the ticks, the messages published
    are the records of windows of the bytes received, which follow each other without
    overlap. Every window is a frame of format A without tails before its last byte,
    or a frame of format B without tails in the payload. -/
theorem published_windows :
    (∀ chunks : List (List Byte), ∃ ws, Format.InOrder ws chunks.flatten ∧
      List.Forall₂ (fun m w => ∃ r : RecordSeven, m = r.msg ∧
        (w = codecSeven.frame r ∧ codecSeven.Clean r ∨
          w = codecSeven.frameB r ∧ frameTail ∉ r.payload))
        (receiveAll parseSeven [] chunks).1 ws) ∧
    (∀ chunks : List (List Byte), ∃ ws, Format.InOrder ws chunks.flatten ∧
      List.Forall₂ (fun m w => ∃ r : RecordThree, m = r.msg ∧
        (w = codecThree.frame r ∧ codecThree.Clean r ∨
          w = codecThree.frameB r ∧ frameTail ∉ r.payload))
        (receiveAll parseThree [] chunks).1 ws) :=
  ⟨Codec.receiveAll_windows (K := codecSeven), Codec.receiveAll_windows (K := codecThree)⟩

/-! ## The chunks of the ticks -/

namespace FrameFormat

variable (f : FrameFormat)

/-- The loop is about to reject the tail at the end of the buffer, while format B would
    accept it if the byte `next` had come. -/
def starved (buffer : List Byte) (next : Byte) : Bool :=
  match buffer.findIdx? (· == frameTail) with
  | none => false
  | some tailIdx => decide (f.len ≤ buffer.length) && tailIdx + 1 == buffer.length &&
      !f.checkA buffer tailIdx && f.checkB (buffer ++ [next]) tailIdx

/-- No tick is starved of the first byte that comes after it. -/
def neverStarved (buffer : List Byte) : List (List Byte) → Bool
  | [] => true
  | chunk :: chunks =>
    (chunks.flatten.head?.all fun next =>
      (f.loop.states (f.trim (buffer ++ chunk))).all fun b => !f.starved b next) &&
    neverStarved (receive f.parse buffer chunk).2 chunks

variable {f} {b b' : List Byte} {ws : List (List Byte)}

/-- The steps of the scan are the iterations of the loop. -/
theorem iter_of_step (hlong : b.length < 2 ^ 62) (h : f.framing.Step True b ws b') :
    f.loop.Iter b (ws.map f.toMsg) b' := by
  obtain ⟨ws', b'', hbody, hstep⟩ := body_step hlong fun hstuck => hstuck.no_step h
  obtain ⟨rfl, rfl⟩ := Format.step_deterministic h hstep
  exact hbody

theorem run_of_scan (hlong : b.length < 2 ^ 62) (h : Run (f.framing.Step True) b ws b') :
    Run f.loop.Iter b (ws.map f.toMsg) b' := by
  induction h with
  | nil => exact .nil _
  | cons hs _ ih =>
    rw [List.map_append]
    exact .cons (iter_of_step hlong hs) (ih (hs.suffix.length_le.trans_lt hlong))

/-- A buffer that awaits a byte is starved of it. -/
theorem starved_of_awaits {next : Byte} (hlong : (b ++ [next]).length < 2 ^ 62)
    (h : f.framing.Awaits b next) : f.starved b next = true := by
  obtain ⟨junk, w, rfl, hj, hw, hvalid, hnext⟩ := h
  have hlen := hw.length
  have hsize := f.size_framing
  have hnext' : (junk ++ f.framing.frame w) ++ [next] = junk ++ (w ++ frameTail :: [next]) := by
    simp [Format.frame]
  have hfind : (junk ++ f.framing.frame w).findIdx? (· == frameTail) =
      some (junk ++ w).length := by
    rw [Format.frame, ← List.append_assoc]
    exact findIdx?_tail (by simpa using ⟨hj, hw.notMem⟩)
  rw [hnext'] at hlong
  have hA : f.checkA (junk ++ f.framing.frame w) (junk ++ w).length = false := by
    rw [← Bool.not_eq_true]
    refine fun hA => hvalid ((checkA_iff hw.length ?_).1 hA)
    simp only [List.length_append, List.length_cons, List.length_nil] at hlong ⊢
    omega
  have hB : f.checkB (junk ++ (w ++ frameTail :: [next])) (junk ++ w).length = true :=
    (checkB_iff hw.length hlong).2 ⟨next, [], rfl, hnext⟩
  rw [starved, hfind]
  simp only [Bool.and_eq_true, Bool.not_eq_true', decide_eq_true_eq, beq_iff_eq]
  refine ⟨⟨⟨?_, ?_⟩, hA⟩, hnext' ▸ hB⟩
  · rw [List.length_append, Format.length_frame hlen]
    omega
  · simp only [List.length_append, Format.length_frame hlen]
    omega

/-- The scans of a series of ticks that are never starved never await a byte. -/
theorem neverAwaits {buffer : List Byte} {chunks : List (List Byte)}
    (hfits : Fits f.parse buffer chunks) (h : f.neverStarved buffer chunks) :
    f.framing.NeverAwaits buffer chunks := by
  induction chunks generalizing buffer with
  | nil => trivial
  | cons chunk chunks ih =>
    obtain ⟨hlen, hfits⟩ := hfits
    rw [neverStarved, Bool.and_eq_true, trim_of_le hlen] at h
    refine ⟨fun next rest hnext ws b hrun hawaits => ?_, fun ws b hscan => ?_⟩
    · have hmem := Loop.mem_states_of_run (run_of_scan (by omega) hrun)
      have hle := Format.run_length_le hrun
      have hstarved := starved_of_awaits (by rw [List.length_append, List.length_singleton]; omega)
        hawaits
      have hall : ∀ s ∈ f.loop.states (buffer ++ chunk), f.starved s next = false := by
        simpa [hnext] using h.1
      rw [hall b hmem] at hstarved
      exact Bool.false_ne_true hstarved
    · obtain ⟨_, hscan', -⟩ := f.parse_scan (buffer ++ chunk)
      rw [trim_of_le hlen] at hscan'
      rw [(hscan.unique hscan').2]
      exact ih hfits h.2

/-- Ticks that are never starved publish what one tick would. -/
theorem receiveAll_unique {chunks chunks' : List (List Byte)} (hfits : Fits f.parse [] chunks)
    (hfits' : Fits f.parse [] chunks') (h : f.neverStarved [] chunks)
    (h' : f.neverStarved [] chunks') (heq : chunks.flatten = chunks'.flatten) :
    receiveAll f.parse [] chunks = receiveAll f.parse [] chunks' := by
  obtain ⟨ws, hfeed, hmsgs⟩ := receiveAll_feed_of_fits hfits
  obtain ⟨ws', hfeed', hmsgs'⟩ := receiveAll_feed_of_fits hfits'
  have hnil : f.framing.Stuck [] := .inl (Nat.zero_le _)
  have hscan := hfeed.scan_exact (fun _ => hnil) (neverAwaits hfits h)
  have hscan' := hfeed'.scan_exact (fun _ => hnil) (neverAwaits hfits' h')
  rw [← heq] at hscan'
  obtain ⟨rfl, hfin⟩ := hscan.unique hscan'
  exact Prod.ext (hmsgs.trans hmsgs'.symm) hfin

end FrameFormat

/-- Two series of ticks that receive the same bytes, and are never starved, publish the
    same messages. -/
theorem published_of_neverStarved (chunks chunks' : List (List Byte))
    (heq : chunks.flatten = chunks'.flatten) :
    (Fits parseSeven [] chunks → Fits parseSeven [] chunks' →
      formatSeven.neverStarved [] chunks → formatSeven.neverStarved [] chunks' →
      (receiveAll parseSeven [] chunks).1 = (receiveAll parseSeven [] chunks').1) ∧
    (Fits parseThree [] chunks → Fits parseThree [] chunks' →
      formatThree.neverStarved [] chunks → formatThree.neverStarved [] chunks' →
      (receiveAll parseThree [] chunks).1 = (receiveAll parseThree [] chunks').1) := by
  have hformat : ∀ f : FrameFormat, Fits f.parse [] chunks → Fits f.parse [] chunks' →
      f.neverStarved [] chunks → f.neverStarved [] chunks' →
      (receiveAll f.parse [] chunks).1 = (receiveAll f.parse [] chunks').1 :=
    fun f hfits hfits' h h' =>
      congrArg Prod.fst (FrameFormat.receiveAll_unique hfits hfits' h h' heq)
  exact ⟨hformat formatSeven, hformat formatThree⟩

/-- A frame of format B after another byte, in one tick or cut inside the payload. -/
theorem published_of_neverStarved_two :
    let r : RecordSeven := ⟨400, 1, 1, 300, 5000, 5000, 2, 0⟩
    let bytes := 7 :: codecSeven.frameB r
    (receiveAll parseSeven [] [bytes]).1 =
      (receiveAll parseSeven [] [bytes.take 5, bytes.drop 5]).1 := by
  intro r bytes
  exact (published_of_neverStarved [bytes] [bytes.take 5, bytes.drop 5] (by decide)).1
    (by decide) (by decide) (by decide) (by decide)

/-- Cut between its tail and its checksum, this frame is not published. -/
theorem published_starved :
    ¬∀ chunks chunks' : List (List Byte), chunks.flatten = chunks'.flatten →
      Fits parseSeven [] chunks → Fits parseSeven [] chunks' →
      (receiveAll parseSeven [] chunks).1 = (receiveAll parseSeven [] chunks').1 := by
  intro h
  let r : RecordSeven := ⟨400, 1, 1, 300, 5000, 5000, 2, 0⟩
  let bytes := 7 :: codecSeven.frameB r
  exact absurd (h [bytes] [bytes.take 16, bytes.drop 16] (by decide) (by decide) (by decide))
    (by decide)

end Sentry.Talker
