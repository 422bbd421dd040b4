import Sentry.Talker.Codec

/-!
# Damage and noise

What is published when the frames of records, of format A and without tail bytes in
payloads and checksums, do not arrive as they were sent.

Since the parser also accepts frames of format B, it may take the bytes of a damaged
frame from the second one on for a payload, its tail for the tail of format B, and
the first byte of the next frame for a checksum. Unless this byte happens to be the
XOR of that payload, one damaged byte costs its own frame only
(`published_of_damaged`); if it is, one wrong message may be published for the damaged
frame and the next one. In the same way, noise before the frames costs at most the
first frame, and only if the noise ends with a tail (`published_after_noise`).
-/

namespace Sentry.Talker

open Framing

namespace Codec

variable {R : Type} {K : Codec R} {rs : List R} {chunks : List (List Byte)}

variable (K) in
/-- What format B takes for the payload when the last byte of a frame is taken for
    its tail. -/
def shiftedPayload (frame : List Byte) : List Byte := (frame.drop 1).take (K.format.len - 2)

theorem length_tail {w : List Byte} (hw : w.length = K.format.framing.body) :
    w.tail.length = K.format.len - 2 := by
  rw [List.length_tail, hw, FrameFormat.framing_body, Nat.sub_sub]

theorem shiftedPayload_frame {w : List Byte} (hw : w.length = K.format.framing.body) :
    K.shiftedPayload (K.format.framing.frame w) = w.tail := by
  have hpos := K.format.framing_body_pos
  rw [shiftedPayload, Format.frame, List.drop_append_of_le_length (by omega), List.drop_one,
    ← length_tail hw, List.take_left]

/-- The receiver of frames with one byte of one of them replaced. -/
theorem receiveAll_damaged {rs₁ rs₂ : List R} {r : R} {i : ℕ} {v : Byte}
    (hclean : ∀ r' ∈ rs₁ ++ r :: rs₂, K.Clean r') (hi : i < (K.frame r).length)
    (hne : (K.frame r)[i] ≠ v)
    (hchunks : chunks.flatten = K.stream rs₁ ++ (K.frame r).set i v ++ K.stream rs₂)
    (hfits : Fits K.format.parse [] chunks) :
    (receiveAll K.format.parse [] chunks).1 = (rs₁ ++ rs₂).map K.msg ∨
    ∃ r' r₂ rest, rs₂ = r₂ :: rest ∧ i < K.format.len - 1 ∧ v ≠ frameTail ∧
      K.payload r' = K.shiftedPayload ((K.frame r).set i v) ∧
      (K.frame r₂).head? = some (xorAll (K.payload r')) ∧
      (receiveAll K.format.parse [] chunks).1 =
        rs₁.map K.msg ++ K.msg r' :: rest.map K.msg := by
  obtain ⟨ws, hfeed, hmsgs⟩ := FrameFormat.receiveAll_feed_of_fits hfits
  have hscan := hfeed.scan fun _ => .inl (Nat.zero_le _)
  have hsound := sound (K := K) (rs₁ ++ r :: rs₂)
  have hclean' := clean_map_body hclean
  rw [List.map_append, List.map_cons] at hsound hclean'
  rw [List.nil_append, hchunks, List.append_assoc, stream_eq, stream_eq] at hscan
  simp only [← frame_eq] at hi hne hscan ⊢
  obtain rfl | ⟨c, hi', hv, hc, hvalid, rfl⟩ := Format.scan_damaged
    K.format.framing_body_pos K.format.detects hsound hclean' hi hne hscan
  · left
    rw [hmsgs, List.map_append, map_toMsg_frame, map_toMsg_frame, List.map_append]
  · right
    cases rs₂ with
    | nil => simp at hc
    | cons r₂ rest =>
      have hw := length_body (K := K) r
      have hset : (K.format.framing.frame (K.body r)).set i v =
          K.format.framing.frame ((K.body r).set i v) :=
        List.set_append_left _ _ (by rw [hw]; exact hi')
      generalize hw' : (K.body r).set i v = w' at hvalid hset hmsgs
      have hlen : w'.length = K.format.framing.body := by rw [← hw', List.length_set, hw]
      obtain ⟨r', hr'⟩ := K.exists_payload w'.tail (length_tail hlen)
      rw [Format.shifted, ← hr'] at hvalid hmsgs
      obtain rfl := (FrameFormat.validNext_append_iff (K.length_payload r')).1 hvalid
      refine ⟨r', r₂, rest, rfl, hi', hv, by rw [hset, shiftedPayload_frame hlen, hr'], ?_, ?_⟩
      · rw [← hc, List.map_cons, Format.stream_cons,
          List.head?_append_of_ne_nil _ (by simp [Format.frame])]
      · rw [hmsgs, List.map_append, map_toMsg_frame, List.map_cons, K.toMsg_payload, List.map_cons,
          List.tail_cons, map_toMsg_frame]

/-- The receiver of frames that come after some bytes: the messages are those of all
    the frames, after those of windows within the bytes, or those of all the frames but
    the first, after those of windows within the bytes and the next one. -/
theorem receiveAll_noise {g : List Byte} (hclean : ∀ r ∈ rs, K.Clean r) (hne : rs ≠ [])
    (hchunks : chunks.flatten = K.stream rs) (hfits : Fits K.format.parse g chunks) :
    ∃ ws, (receiveAll K.format.parse g chunks).1 = ws.map K.format.toMsg ++ rs.map K.msg ∧
        Format.InOrder ws g ∨
      (receiveAll K.format.parse g chunks).1 = ws.map K.format.toMsg ++ rs.tail.map K.msg ∧
        g.getLast? = some frameTail ∧
        ∃ c, (K.stream rs).head? = some c ∧ Format.InOrder ws (g ++ [c]) := by
  obtain ⟨ws, hfeed, hmsgs⟩ := FrameFormat.receiveAll_feed_of_fits hfits
  have hpos : chunks = [] → K.format.framing.Stuck g := by
    rintro rfl
    have hlen := congrArg List.length hchunks
    rw [stream_eq, Format.length_stream (sound rs), List.length_map] at hlen
    simp [hne] at hlen
  have hscan := hfeed.scan hpos
  rw [hchunks, stream_eq] at hscan
  obtain ⟨pre, rfl, hpre⟩ | ⟨pre, c, rfl, hpre, hlast, hc⟩ := Format.scan_noise
    K.format.framing_body_pos (sound rs) (clean_map_body hclean) (by simpa using hne) hscan
  · refine ⟨pre, .inl ⟨?_, hpre⟩⟩
    rw [hmsgs, List.map_append, map_toMsg_frame]
  · refine ⟨pre, .inr ⟨?_, hlast, c, by rw [stream_eq, hc], hpre⟩⟩
    rw [hmsgs, List.map_append, ← List.map_tail, map_toMsg_frame]

end Codec

/-! ## One damaged byte -/

/-- From an empty buffer, the receiver of frames with one byte of one of them replaced
    publishes all the other frames, once and in order, and nothing else; except that,
    if the byte is before the tail, its new value is not a tail, and the XOR of the
    payload shifted by one byte is the first byte of the next frame, it may publish the
    message of this payload for the damaged frame and the next one. -/
theorem published_of_damaged :
    (∀ (rs₁ rs₂ : List RecordSeven) (r : RecordSeven) (i : ℕ) (v : Byte)
      (chunks : List (List Byte)), (∀ r' ∈ rs₁ ++ r :: rs₂, codecSeven.Clean r') →
      (hi : i < (codecSeven.frame r).length) → (codecSeven.frame r)[i] ≠ v →
      chunks.flatten = codecSeven.stream rs₁ ++ (codecSeven.frame r).set i v ++
        codecSeven.stream rs₂ →
      Fits parseSeven [] chunks →
      (receiveAll parseSeven [] chunks).1 = (rs₁ ++ rs₂).map RecordSeven.msg ∨
      ∃ (r' r₂ : RecordSeven) (rest : List RecordSeven), rs₂ = r₂ :: rest ∧ i < 15 ∧ v ≠ frameTail ∧
        r'.payload = codecSeven.shiftedPayload ((codecSeven.frame r).set i v) ∧
        (codecSeven.frame r₂).head? = some (xorAll r'.payload) ∧
        (receiveAll parseSeven [] chunks).1 =
          rs₁.map RecordSeven.msg ++ r'.msg :: rest.map RecordSeven.msg) ∧
    (∀ (rs₁ rs₂ : List RecordThree) (r : RecordThree) (i : ℕ) (v : Byte)
      (chunks : List (List Byte)), (∀ r' ∈ rs₁ ++ r :: rs₂, codecThree.Clean r') →
      (hi : i < (codecThree.frame r).length) → (codecThree.frame r)[i] ≠ v →
      chunks.flatten = codecThree.stream rs₁ ++ (codecThree.frame r).set i v ++
        codecThree.stream rs₂ →
      Fits parseThree [] chunks →
      (receiveAll parseThree [] chunks).1 = (rs₁ ++ rs₂).map RecordThree.msg ∨
      ∃ (r' r₂ : RecordThree) (rest : List RecordThree), rs₂ = r₂ :: rest ∧ i < 23 ∧ v ≠ frameTail ∧
        r'.payload = codecThree.shiftedPayload ((codecThree.frame r).set i v) ∧
        (codecThree.frame r₂).head? = some (xorAll r'.payload) ∧
        (receiveAll parseThree [] chunks).1 =
          rs₁.map RecordThree.msg ++ r'.msg :: rest.map RecordThree.msg) :=
  ⟨fun _ _ _ _ _ _ hclean hi hne h => Codec.receiveAll_damaged (K := codecSeven) hclean hi hne h,
    fun _ _ _ _ _ _ hclean hi hne h => Codec.receiveAll_damaged (K := codecThree) hclean hi hne h⟩

/-- A damaged byte in the second of three frames. -/
theorem published_of_damaged_three :
    let r : RecordSeven := ⟨400, 1, 1, 300, 5000, 5000, 2, 0⟩
    let bytes := codecSeven.stream [r] ++ (codecSeven.frame r).set 4 7 ++ codecSeven.stream [r]
    (receiveAll parseSeven [] [bytes]).1 = ([r] ++ [r]).map RecordSeven.msg := by
  intro r bytes
  refine (published_of_damaged.1 [r] [r] r 4 7 [bytes] (by decide) (by decide) (by decide)
    (by decide) (by decide)).resolve_right ?_
  rintro ⟨r', r₂, rest, hrest, -, -, hpayload, hhead, -⟩
  obtain ⟨rfl, -⟩ := List.cons.inj hrest
  rw [hpayload] at hhead
  exact absurd hhead (by decide)

/-- The second of two frames is lost when the first byte of the first one is damaged,
    and the frames start with the same byte. -/
theorem published_of_damaged_next_lost :
    ¬∀ (rs₁ rs₂ : List RecordSeven) (r : RecordSeven) (i : ℕ) (v : Byte)
      (chunks : List (List Byte)), (∀ r' ∈ rs₁ ++ r :: rs₂, codecSeven.Clean r') →
      (hi : i < (codecSeven.frame r).length) → (codecSeven.frame r)[i] ≠ v →
      chunks.flatten = codecSeven.stream rs₁ ++ (codecSeven.frame r).set i v ++
        codecSeven.stream rs₂ →
      Fits parseSeven [] chunks →
      (receiveAll parseSeven [] chunks).1 = (rs₁ ++ rs₂).map RecordSeven.msg := by
  intro h
  let r : RecordSeven := ⟨400, 1, 1, 300, 5000, 5000, 2, 0⟩
  let r' : RecordSeven := ⟨399, 1, 1, 299, 5000, 5000, 2, 0⟩
  exact absurd (h [] [r'] r 0 0 [(codecSeven.frame r).set 0 0 ++ codecSeven.frame r'] (by decide)
    (by decide) (by decide) (by decide) (by decide)) (by decide)

/-! ## Noise -/

/-- Whatever the bytes `g` in the buffer, the receiver of frames publishes, as its last
    messages, all of them but possibly the first, once and in order. The messages before
    them are those of windows within `g`. The first frame is lost only if `g` ends with
    a tail; then its first byte may belong to the windows too. -/
theorem published_after_noise :
    (∀ (g : List Byte) (rs : List RecordSeven) (chunks : List (List Byte)), rs ≠ [] →
      (∀ r ∈ rs, codecSeven.Clean r) → chunks.flatten = codecSeven.stream rs →
      Fits parseSeven g chunks →
      ∃ ws, (receiveAll parseSeven g chunks).1 =
          ws.map formatSeven.toMsg ++ rs.map RecordSeven.msg ∧ Format.InOrder ws g ∨
        (receiveAll parseSeven g chunks).1 =
          ws.map formatSeven.toMsg ++ rs.tail.map RecordSeven.msg ∧ g.getLast? = some frameTail ∧
          ∃ c, (codecSeven.stream rs).head? = some c ∧ Format.InOrder ws (g ++ [c])) ∧
    (∀ (g : List Byte) (rs : List RecordThree) (chunks : List (List Byte)), rs ≠ [] →
      (∀ r ∈ rs, codecThree.Clean r) → chunks.flatten = codecThree.stream rs →
      Fits parseThree g chunks →
      ∃ ws, (receiveAll parseThree g chunks).1 =
          ws.map formatThree.toMsg ++ rs.map RecordThree.msg ∧ Format.InOrder ws g ∨
        (receiveAll parseThree g chunks).1 =
          ws.map formatThree.toMsg ++ rs.tail.map RecordThree.msg ∧ g.getLast? = some frameTail ∧
          ∃ c, (codecThree.stream rs).head? = some c ∧ Format.InOrder ws (g ++ [c])) :=
  ⟨fun _ _ _ hne hclean h => Codec.receiveAll_noise (K := codecSeven) hclean hne h,
    fun _ _ _ hne hclean h => Codec.receiveAll_noise (K := codecThree) hclean hne h⟩

/-- Two frames after a tail and a byte. -/
theorem published_after_noise_two :
    let r : RecordSeven := ⟨400, 1, 1, 300, 5000, 5000, 2, 0⟩
    ∃ ws, (receiveAll parseSeven [frameTail, 7] [codecSeven.stream [r, r]]).1 =
      ws.map formatSeven.toMsg ++ [r, r].map RecordSeven.msg ∧
        Format.InOrder ws [frameTail, 7] := by
  intro r
  obtain ⟨ws, h | ⟨-, hlast, -⟩⟩ := published_after_noise.1 [frameTail, 7] [r, r]
    [codecSeven.stream [r, r]] (by decide) (by decide) (by decide) (by decide)
  · exact ⟨ws, h⟩
  · exact absurd hlast (by decide)

end Sentry.Talker
