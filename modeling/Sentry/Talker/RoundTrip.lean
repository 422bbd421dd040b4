import Sentry.Talker.Codec

/-!
# Undamaged links

What is published when the frames of records arrive undamaged.

Frames of format A carry no byte stuffing, so a tail byte in a field or in the
checksum costs its own frame, and nothing else: from an empty buffer, exactly the
records without such a byte are published (`roundTrip_formatA`). A receiver that
joins the stream late or trims its buffer publishes some of the complete frames,
in order, and never anything else (`published_of_undamaged`); and after every tick,
the last message published is the last complete frame received (`published_last`).

Frames of format B are accepted only where a frame of format A would fit too, so the
first of a stream is lost, and the records do not all come through
(`roundTrip_formatB_iff`).
-/

namespace Sentry.Talker

open Framing Transition

namespace Codec

variable {R : Type} {K : Codec R} {rs : List R} {chunks : List (List Byte)} {j e : ℕ}

/-- The receiver of a part of a stream publishes some of its complete frames, in order. -/
theorem receiveAll_sublist (hchunks : chunks.flatten = ((K.stream rs).take e).drop j) :
    (receiveAll K.format.parse [] chunks).1.Sublist ((K.complete rs j e).map K.msg) := by
  obtain ⟨ws, hfeed, hmsgs⟩ := K.format.receiveAll_feed [] chunks
  have hlossy := hfeed.lossy K.format.trim_suffix
  rw [List.nil_append, hchunks, stream_eq] at hlossy
  have hclean := (Format.lossy_stream (sound rs) hlossy).trans (List.filter_sublist.map _)
  rw [hmsgs, ← map_toMsg_frame, ← between_map_body]
  exact hclean.map _

/-- If no tick has more than 1024 bytes to parse, these are the frames without a
    tail inside. -/
theorem receiveAll_eq (hchunks : chunks.flatten = ((K.stream rs).take e).drop j)
    (hfits : Fits K.format.parse [] chunks) :
    (receiveAll K.format.parse [] chunks).1 =
      ((K.complete rs j e).filter K.Clean).map K.msg := by
  obtain ⟨ws, hfeed, hmsgs⟩ := FrameFormat.receiveAll_feed_of_fits hfits
  have hscan := hfeed.scan fun _ => .inl (Nat.zero_le _)
  rw [List.nil_append, hchunks, stream_eq] at hscan
  rw [hmsgs, Format.scan_stream (sound rs) hscan, between_map_body, Format.clean,
    List.filter_map, ← map_toMsg_frame]
  rfl

/-- All the frames of a stream are complete in it. -/
theorem complete_stream (rs : List R) : K.complete rs 0 (K.stream rs).length = rs := by
  have hsize := K.format.two_le_len
  have hfirst : (0 + (K.format.len - 1)) / K.format.len = 0 := Nat.div_eq_of_lt (by omega)
  rw [complete, stream_eq, Format.length_stream (sound rs), K.format.size_framing, hfirst,
    Nat.mul_div_cancel _ (by omega), List.length_map, List.take_length, List.drop_zero]

/-- The buffer is empty at the end of a stream whose last record has no tail inside. -/
theorem receiveAll_nil (hchunks : chunks.flatten = K.stream rs)
    (hfits : Fits K.format.parse [] chunks) (hlast : ∀ r, rs.getLast? = some r → K.Clean r) :
    (receiveAll K.format.parse [] chunks).2 = [] := by
  obtain ⟨ws, hfeed, -⟩ := FrameFormat.receiveAll_feed_of_fits hfits
  have hscan := hfeed.scan fun _ => .inl (Nat.zero_le _)
  rw [List.nil_append, hchunks, stream_eq] at hscan
  refine Format.scan_stream_nil (sound rs) (fun w hw => ?_) hscan
  rw [List.getLast?_map, Option.map_eq_some_iff] at hw
  obtain ⟨r, hr, rfl⟩ := hw
  exact hlast r hr

/-- The last message published is that of the last complete frame. -/
theorem receiveAll_last (hclean : ∀ r ∈ rs, K.Clean r)
    (hchunks : chunks.flatten = ((K.stream rs).take e).drop j) :
    (receiveAll K.format.parse [] chunks).1.getLast? =
      (K.complete rs j e).getLast?.map K.msg := by
  obtain ⟨ws, hfeed, hmsgs⟩ := K.format.receiveAll_feed [] chunks
  have hkeep : 2 * (K.format.framing.body + 1) ≤ K.format.len * 2 := by
    rw [K.format.size_framing, Nat.mul_comm]
  rw [stream_eq] at hchunks
  have hlast := Format.feed_last (sound rs) (clean_map_body hclean) hkeep K.format.trim_eq_or
    hchunks hfeed
  rw [hmsgs, List.getLast?_map, hlast, between_map_body, ← List.getLast?_map, ← List.getLast?_map,
    map_toMsg_frame, List.getLast?_map]

theorem length_formatB (rs : List R) :
    (rs.flatMap K.frameB).length = rs.length * K.format.len := by
  have hsize := K.format.two_le_len
  induction rs with
  | nil => simp
  | cons r rs ih =>
    have hframe : (K.frameB r).length = K.format.len := by
      rw [frameB, List.length_append, K.length_payload]
      simp
      omega
    rw [List.flatMap_cons, List.length_append, ih, hframe, List.length_cons]
    ring

/-- Frames of format B, from an empty buffer, in one tick. -/
theorem receive_formatB_iff (hclean : ∀ r ∈ rs, K.Clean r)
    (hlen : (rs.flatMap K.frameB).length ≤ 1024) :
    (receive K.format.parse [] (rs.flatMap K.frameB)).1 = rs.map K.msg ↔ rs = [] := by
  refine ⟨fun heq => ?_, fun hnil => by subst hnil; rfl⟩
  by_contra hne
  obtain ⟨r, rs, rfl⟩ := List.exists_cons_of_ne_nil hne
  obtain ⟨ws, hscan, hmsgs⟩ := K.format.parse_scan ((r :: rs).flatMap K.frameB)
  have hsize := K.format.two_le_len
  have htotal := length_formatB (K := K) (r :: rs)
  rw [FrameFormat.trim_of_le hlen] at hscan
  have hcount := congrArg List.length (hmsgs.symm.trans heq)
  rw [List.length_map, List.length_map, List.length_cons] at hcount
  have hb : (r :: rs).flatMap K.frameB =
      K.payload r ++ frameTail :: (xorAll (K.payload r) :: rs.flatMap K.frameB) := by
    simp [frameB]
  rw [hb] at hscan htotal
  -- The tail of the first frame comes one byte too early.
  have hr : K.format.framing.delim ∉ K.payload r := fun hmem =>
    hclean r List.mem_cons_self (List.mem_append_left _ hmem)
  have hshort : (K.payload r).length < K.format.framing.body := by
    rw [K.length_payload, FrameFormat.framing_body]
    omega
  have hstuck : ¬K.format.framing.Stuck
      (K.payload r ++ frameTail :: (xorAll (K.payload r) :: rs.flatMap K.frameB)) :=
    Format.not_stuck_of (by rw [htotal, FrameFormat.framing_body, List.length_cons]; grind)
      (by simp)
  obtain ⟨es, es', b, hs, hscan', rfl⟩ := hscan.step hstuck
  obtain ⟨rfl, rfl⟩ := Format.step_short hr hshort hs
  -- The rest is too short for as many windows as there are records.
  have hle := Format.run_length_le hscan'.run
  rw [List.nil_append] at hcount
  rw [hcount, K.format.size_framing] at hle
  simp only [List.length_append, List.length_cons, K.length_payload] at htotal hle
  omega

end Codec

/-! ## Format A -/

/-- From an empty buffer, whatever the chunks of the ticks, the receiver of the frames
    of format A of some records publishes exactly the records without a tail byte in
    the payload or the checksum, in order; if the last record is one of them, or there
    is none, nothing is left in the buffer. -/
theorem roundTrip_formatA :
    (∀ (rs : List RecordSeven) (chunks : List (List Byte)),
      chunks.flatten = codecSeven.stream rs → Fits parseSeven [] chunks →
      (receiveAll parseSeven [] chunks).1 = (rs.filter codecSeven.Clean).map RecordSeven.msg ∧
      ((∀ r, rs.getLast? = some r → codecSeven.Clean r) →
        (receiveAll parseSeven [] chunks).2 = [])) ∧
    (∀ (rs : List RecordThree) (chunks : List (List Byte)),
      chunks.flatten = codecThree.stream rs → Fits parseThree [] chunks →
      (receiveAll parseThree [] chunks).1 = (rs.filter codecThree.Clean).map RecordThree.msg ∧
      ((∀ r, rs.getLast? = some r → codecThree.Clean r) →
        (receiveAll parseThree [] chunks).2 = [])) := by
  have hcodec : ∀ {R : Type} (K : Codec R) (rs : List R) (chunks : List (List Byte)),
      chunks.flatten = K.stream rs → Fits K.format.parse [] chunks →
      (receiveAll K.format.parse [] chunks).1 = (rs.filter K.Clean).map K.msg ∧
      ((∀ r, rs.getLast? = some r → K.Clean r) →
        (receiveAll K.format.parse [] chunks).2 = []) := by
    intro R K rs chunks hchunks hfits
    refine ⟨?_, Codec.receiveAll_nil hchunks hfits⟩
    have heq := Codec.receiveAll_eq (j := 0) (e := (K.stream rs).length)
      (by rw [List.take_length, List.drop_zero, hchunks]) hfits
    rwa [Codec.complete_stream] at heq
  exact ⟨hcodec codecSeven, hcodec codecThree⟩

/-- Two frames, cut inside the first one. -/
theorem roundTrip_formatA_two :
    let r : RecordSeven := ⟨400, 1, 1, 300, 5000, 4999, 2, 0⟩
    let r' : RecordSeven := ⟨399, 1, 0, 299, 5000, 4700, 2, 1⟩
    let bytes := codecSeven.stream [r, r']
    (receiveAll parseSeven [] [bytes.take 7, bytes.drop 7]).1 =
      ([r, r'].filter codecSeven.Clean).map RecordSeven.msg ∧
    (receiveAll parseSeven [] [bytes.take 7, bytes.drop 7]).2 = [] := by
  intro r r' bytes
  obtain ⟨heq, hnil⟩ := roundTrip_formatA.1 [r, r'] [bytes.take 7, bytes.drop 7] (by decide)
    (by decide)
  exact ⟨heq, hnil (by decide)⟩

/-- A record with a tail byte in a field is not published. -/
theorem roundTrip_formatA_tail_in_field :
    ¬∀ (rs : List RecordSeven) (chunks : List (List Byte)),
      chunks.flatten = codecSeven.stream rs → Fits parseSeven [] chunks →
      (receiveAll parseSeven [] chunks).1 = rs.map RecordSeven.msg ∧
        (receiveAll parseSeven [] chunks).2 = [] := by
  intro h
  let r : RecordSeven := ⟨0x00DD, 1, 1, 300, 5000, 5000, 2, 0⟩
  exact absurd (h [r] [codecSeven.frame r] (by decide) (by decide)).1 (by decide)

/-- From an empty buffer, with or without trimming, the receiver of the bytes between
    the offsets `j` and `e` of a stream of frames publishes some of the complete frames,
    in order; if no tick has more than 1024 bytes to parse, it publishes all those
    without a tail byte in the payload or the checksum. -/
theorem published_of_undamaged :
    (∀ (rs : List RecordSeven) (chunks : List (List Byte)) (j e : ℕ),
      chunks.flatten = ((codecSeven.stream rs).take e).drop j →
      (receiveAll parseSeven [] chunks).1.Sublist
        ((codecSeven.complete rs j e).map RecordSeven.msg) ∧
      (Fits parseSeven [] chunks → (receiveAll parseSeven [] chunks).1 =
        ((codecSeven.complete rs j e).filter codecSeven.Clean).map RecordSeven.msg)) ∧
    (∀ (rs : List RecordThree) (chunks : List (List Byte)) (j e : ℕ),
      chunks.flatten = ((codecThree.stream rs).take e).drop j →
      (receiveAll parseThree [] chunks).1.Sublist
        ((codecThree.complete rs j e).map RecordThree.msg) ∧
      (Fits parseThree [] chunks → (receiveAll parseThree [] chunks).1 =
        ((codecThree.complete rs j e).filter codecThree.Clean).map RecordThree.msg)) :=
  ⟨fun _ _ _ _ h => ⟨Codec.receiveAll_sublist (K := codecSeven) h,
      Codec.receiveAll_eq (K := codecSeven) h⟩,
    fun _ _ _ _ h => ⟨Codec.receiveAll_sublist (K := codecThree) h,
      Codec.receiveAll_eq (K := codecThree) h⟩⟩

/-- Three frames, joined inside the first one and cut inside the last one; the second
    one has a tail byte in a field. -/
theorem published_of_undamaged_three :
    let r : RecordSeven := ⟨400, 1, 1, 300, 5000, 5000, 2, 0⟩
    let r' : RecordSeven := ⟨0x00DD, 1, 1, 299, 5000, 5000, 2, 0⟩
    let bytes := ((codecSeven.stream [r, r', r, r]).take 60).drop 5
    (receiveAll parseSeven [] [bytes.take 30, bytes.drop 30]).1 =
      ((codecSeven.complete [r, r', r, r] 5 60).filter codecSeven.Clean).map RecordSeven.msg := by
  intro r r' bytes
  exact (published_of_undamaged.1 [r, r', r, r] [bytes.take 30, bytes.drop 30] 5 60
    (by decide)).2 (by decide)

/-- With or without trimming, whatever the chunks of the ticks so far, the last message
    published by the receiver of a part of a stream without tail bytes in payloads and
    checksums is the last complete frame received. -/
theorem published_last :
    (∀ (rs : List RecordSeven) (chunks : List (List Byte)) (j e : ℕ),
      (∀ r ∈ rs, codecSeven.Clean r) →
      chunks.flatten = ((codecSeven.stream rs).take e).drop j →
      (receiveAll parseSeven [] chunks).1.getLast? =
        (codecSeven.complete rs j e).getLast?.map RecordSeven.msg) ∧
    (∀ (rs : List RecordThree) (chunks : List (List Byte)) (j e : ℕ),
      (∀ r ∈ rs, codecThree.Clean r) →
      chunks.flatten = ((codecThree.stream rs).take e).drop j →
      (receiveAll parseThree [] chunks).1.getLast? =
        (codecThree.complete rs j e).getLast?.map RecordThree.msg) :=
  ⟨fun _ _ _ _ hclean h => Codec.receiveAll_last (K := codecSeven) hclean h,
    fun _ _ _ _ hclean h => Codec.receiveAll_last (K := codecThree) hclean h⟩

/-- A backlog of 71 frames and a piece, joined inside the first one: the tick trims the buffer,
    and still publishes the last complete frame at the end. -/
theorem published_last_trimmed :
    let r : RecordSeven := ⟨400, 1, 1, 300, 5000, 5000, 2, 0⟩
    let r' : RecordSeven := ⟨399, 1, 1, 299, 5000, 5000, 2, 0⟩
    let rs := List.replicate 70 r ++ [r', r]
    let bytes := ((codecSeven.stream rs).take 1140).drop 5
    1024 < bytes.length ∧
      (receiveAll parseSeven [] [bytes]).1.getLast? =
        (codecSeven.complete rs 5 1140).getLast?.map RecordSeven.msg ∧
      (codecSeven.complete rs 5 1140).getLast?.map RecordSeven.msg = some r'.msg := by
  intro r r' rs bytes
  exact ⟨by decide +kernel, published_last.1 rs [bytes] 5 1140 (by decide +kernel)
    (List.append_nil bytes), by decide +kernel⟩

/-! ## Format B -/

/-- From an empty buffer, in one tick, the receiver of the frames of format B of some
    records without tail bytes publishes exactly these records only if there are none:
    the first frame is dropped, because its tail comes too early for format A. -/
theorem roundTrip_formatB_iff (rs : List RecordSeven) (rs' : List RecordThree) :
    ((∀ r ∈ rs, codecSeven.Clean r) → (rs.flatMap codecSeven.frameB).length ≤ 1024 →
      ((receive parseSeven [] (rs.flatMap codecSeven.frameB)).1 = rs.map RecordSeven.msg ↔
        rs = [])) ∧
    ((∀ r ∈ rs', codecThree.Clean r) → (rs'.flatMap codecThree.frameB).length ≤ 1024 →
      ((receive parseThree [] (rs'.flatMap codecThree.frameB)).1 = rs'.map RecordThree.msg ↔
        rs' = [])) :=
  ⟨Codec.receive_formatB_iff (K := codecSeven), Codec.receive_formatB_iff (K := codecThree)⟩

/-- One frame of format B. -/
theorem roundTrip_formatB_iff_one :
    let r : RecordSeven := ⟨400, 1, 1, 300, 5000, 5000, 2, 0⟩
    ((receive parseSeven [] ([r].flatMap codecSeven.frameB)).1 = [r].map RecordSeven.msg ↔
      [r] = []) := by
  intro r
  exact (roundTrip_formatB_iff [r] []).1 (by decide) (by decide)

/-- One frame of format B is not published. -/
theorem roundTrip_formatB_lost :
    ¬∀ rs : List RecordSeven, (∀ r ∈ rs, codecSeven.Clean r) →
      (rs.flatMap codecSeven.frameB).length ≤ 1024 →
      (receive parseSeven [] (rs.flatMap codecSeven.frameB)).1 = rs.map RecordSeven.msg := by
  intro h
  let r : RecordSeven := ⟨400, 1, 1, 300, 5000, 5000, 2, 0⟩
  exact absurd (h [r] (by decide) (by decide)) (by decide)

end Sentry.Talker
